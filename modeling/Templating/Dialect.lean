import Templating.Engine

/-! Dialects: how sources are read, and the steps that the tree of a source takes with data. The
parsers of the engines and of sheets give templates that take these steps. -/

namespace Templating

/-- A dialect of templates. -/
structure Dialect where
  Tree : Type
  parser : Parser
  read : (label source : String) → Except Fault Tree
  run : (label : String) → Registry → Tree → (data : Json) → (hasSignal : Bool) → Run
  /-- The fault of a run that ends at a refused write. -/
  refusal : (label : String) → IoFault → Fault
  /-- The parser's templates run trees. -/
  parse_eq : ∀ label functions source,
    parser.parse label functions source =
      (read label source).map fun tree =>
        .ready (.ofDataRuns (run label functions tree) (refusal label))

/-- The run of a source with data, or why the source cannot be read. -/
def Dialect.runOf (dialect : Dialect) (label : String) (functions : Registry) (source : String)
    (data : Json) (hasSignal : Bool) : Except Fault Run :=
  (dialect.read label source).map fun tree => dialect.run label functions tree data hasSignal

namespace Dialect

variable {dialect : Dialect} {label source : String} {tree : dialect.Tree}

/-- The template of a source that can be read. -/
def template (dialect : Dialect) (label : String) (functions : Registry) (tree : dialect.Tree) :
    Template :=
  .ready (.ofDataRuns (dialect.run label functions tree) (dialect.refusal label))

theorem parse_of_read (functions : Registry) (read : dialect.read label source = .ok tree) :
    dialect.parser.parse label functions source = .ok (dialect.template label functions tree) := by
  rw [dialect.parse_eq, read]
  rfl

theorem runOf_of_read (functions : Registry) (data : Json) (hasSignal : Bool)
    (read : dialect.read label source = .ok tree) :
    dialect.runOf label functions source data hasSignal =
      .ok (dialect.run label functions tree data hasSignal) := by
  rw [runOf, read]
  rfl

end Dialect

/-- Pages, with or without escaping of what they print. -/
def Page.dialect (escapes : Bool) : Dialect where
  Tree := List Stmt
  parser := if escapes then htmlParser else textParser
  read label source :=
    (parse source).mapError fun rejection =>
      PageFault.toFault ⟨rejection.kind, none, some ⟨label, rejection.line⟩⟩
  run label functions page data hasSignal := Page.run ⟨label, escapes, functions⟩ page data hasSignal
  refusal _ := refusal
  parse_eq label functions source := by
    have compiled : (if escapes then htmlParser else textParser).parse =
        compile escapes := by cases escapes <;> rfl
    rw [compiled, compile]
    cases parse source <;> rfl

def Sheet.dialect : Dialect where
  Tree := List Stmt
  parser := parser
  read label source :=
    match parse? source with
    | some sheet => .ok sheet
    | none => .error (.source (.sheet label))
  run label functions sheet data hasSignal := Sheet.run label functions sheet data hasSignal
  refusal := refusal
  parse_eq label functions source := by
    simp only [parser]
    cases parse? source <;> rfl

theorem Sheet.dialect_read {source : String} {sheet : List Stmt} (label : String)
    (h : parse? source = some sheet) : dialect.read label source = .ok sheet := by
  simp only [dialect, h]

theorem Sheet.dialect_run (label : String) (functions : Registry) (sheet : List Stmt) (data : Json)
    (hasSignal : Bool) :
    dialect.run label functions sheet data hasSignal = run label functions sheet data hasSignal :=
  rfl

def Pattern.dialect : Dialect where
  Tree := Pattern
  parser := parser
  read _ source := (parse source).mapError .source
  run _ _ pattern data _ := .text (pattern.format (arguments data))
  refusal _ := Fault.stream
  parse_eq label functions source := by
    simp only [parser]
    cases parse source <;> rfl

end Templating
