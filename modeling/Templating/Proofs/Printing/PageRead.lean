import Templating.Page.Reader
import Templating.Proofs.Printing.PageScan

/-! Reading the tokens of a form: each text is a statement, and so is each print tag, whose expression
is a variable. A name is an expression of its own where it is no constant and no `not`. -/

namespace Templating.Page

/-- The names that are no variables at the start of an expression. -/
def keywords : List String := ["true", "True", "false", "False", "none", "None", "not"]

/-- Statements that print the parts of a form. -/
inductive Prints : List Part → List Stmt → Prop where
  | nil : Prints [] []
  | text {parts : List Part} {statements : List Stmt} (text : String)
      (rest : Prints parts statements) : Prints (.text text :: parts) (.text text :: statements)
  | print {parts : List Part} {statements : List Stmt} (name : String) (start own : Nat)
      (rest : Prints parts statements) :
      Prints (.print name :: parts) (.print start (.var own name) :: statements)

namespace Reading

variable {α β : Type} {cursor next : Cursor} {lexeme : Lexeme} {rest : List Lexeme}
  {fault? : Option ScanFault} {last fuel depth : Nat}

theorem bind_of_ok {first : Reading α} {value : α} (then_ : α → Reading β)
    (h : first cursor = .ok (value, next)) : (first >>= then_) cursor = then_ value next := by
  show first cursor >>= _ = _
  rw [h]
  rfl

theorem peek_cons :
    peek ⟨lexeme :: rest, fault?, last⟩ = .ok (some lexeme.token, ⟨lexeme :: rest, fault?, last⟩) :=
  rfl

theorem line_cons :
    line ⟨lexeme :: rest, fault?, last⟩ = .ok (lexeme.line, ⟨lexeme :: rest, fault?, last⟩) := rfl

theorem take_cons :
    take ⟨lexeme :: rest, fault?, last⟩ =
      .ok (some lexeme.token, ⟨rest, fault?, lexeme.line⟩) := rfl

theorem must_cons :
    must ⟨lexeme :: rest, fault?, last⟩ = .ok (lexeme.token, ⟨rest, fault?, lexeme.line⟩) := rfl

theorem expect_cons :
    expect lexeme.token ⟨lexeme :: rest, fault?, last⟩ = .ok ((), ⟨rest, fault?, lexeme.line⟩) := by
  rw [expect, bind_of_ok _ must_cons, if_pos rfl]
  rfl

theorem skip_of_ne {token : Token} (h : lexeme.token ≠ token) :
    skip token ⟨lexeme :: rest, fault?, last⟩ = .ok (false, ⟨lexeme :: rest, fault?, last⟩) := by
  have differs : (some lexeme.token == some token) = false := by
    simpa using h
  have next : isNext token ⟨lexeme :: rest, fault?, last⟩ =
      .ok (false, ⟨lexeme :: rest, fault?, last⟩) := by
    rw [isNext, bind_of_ok _ peek_cons, differs]
    rfl
  rw [skip, bind_of_ok _ next, if_neg Bool.false_ne_true]
  rfl

theorem guard_of_le (h : depth ≤ deepest) : guard depth cursor = .ok ((), cursor) := by
  rw [guard, if_neg (Nat.not_lt.mpr h)]
  rfl

section Alone

variable {first stop : Lexeme} {more : List Lexeme} {last' level start : Nat} {e : Expr}
  {name : String} {own : Nat}

/-- The tokens that no expression goes on with: the end of a print tag and what ends an argument. -/
def stops : List Token := [.printEnd, .mark .comma, .mark .parenClose]

/-- Reading stands before a token that ends an expression. -/
abbrev beforeStop (stop : Lexeme) (rest : List Lexeme) (last : Nat) : Cursor :=
  ⟨stop :: rest, none, last⟩

theorem skip_beforeStop {token : Token} (h : stop.token ∈ stops) (other : token ∉ stops) :
    skip token (beforeStop stop rest last) = .ok (false, beforeStop stop rest last) :=
  skip_of_ne fun same => other (same ▸ h)

theorem postfixes_stop (h : stop.token ∈ stops) (subject : Expr) :
    postfixes (fuel + 1) depth start subject (beforeStop stop rest last) =
      .ok (subject, beforeStop stop rest last) := by
  rw [postfixes, bind_of_ok _ peek_cons]
  obtain ⟨token, line⟩ := stop
  simp only [stops, List.mem_cons, List.not_mem_nil, or_false] at h
  rcases h with rfl | rfl | rfl <;> rfl

theorem filters_stop (h : stop.token ∈ stops) (subject : Expr) :
    filters (fuel + 1) depth subject (beforeStop stop rest last) =
      .ok (subject, beforeStop stop rest last) := by
  rw [filters, bind_of_ok _ peek_cons]
  obtain ⟨token, line⟩ := stop
  simp only [stops, List.mem_cons, List.not_mem_nil, or_false] at h
  rcases h with rfl | rfl | rfl <;> rfl

theorem comparisons_stop (h : stop.token ∈ stops) :
    comparisons (fuel + 1) depth (beforeStop stop rest last) =
      .ok ([], beforeStop stop rest last) := by
  rw [comparisons, bind_of_ok _ peek_cons]
  obtain ⟨token, line⟩ := stop
  simp only [stops, List.mem_cons, List.not_mem_nil, or_false] at h
  rcases h with rfl | rfl | rfl <;> rfl

theorem operators_stop (h : stop.token ∈ stops) (left : Expr) :
    operators (fuel + 1) depth level start left (beforeStop stop rest last) =
      .ok (left, beforeStop stop rest last) := by
  have none : operator? level stop.token = none := by
    simp only [stops, List.mem_cons, List.not_mem_nil, or_false] at h
    rcases h with same | same | same <;> rw [same] <;> unfold operator? <;> split <;>
      first | rfl | contradiction
  rw [operators, bind_of_ok _ peek_cons, Option.bind_some, none]
  rfl

theorem choices_stop (h : stop.token ∈ stops) (yes : Expr) :
    choices (fuel + 1) depth start yes (beforeStop stop rest last) =
      .ok (yes, beforeStop stop rest last) := by
  rw [choices, bind_of_ok _ (skip_beforeStop h (by decide)), if_neg Bool.false_ne_true]
  rfl

/-- A level of operators with two operands reads what the next tighter level reads before a stop. -/
theorem operation_binary (binary : level ≠ 2 ∧ level ≠ 3 ∧ level ≠ 8) (h : stop.token ∈ stops)
    (tighter : operation (fuel + 1) depth (level + 1) ⟨first :: more, none, last⟩ =
      .ok (e, beforeStop stop rest last')) :
    operation (fuel + 2) depth level ⟨first :: more, none, last⟩ =
      .ok (e, beforeStop stop rest last') := by
  obtain ⟨noNot, noComparison, noTightest⟩ := binary
  rw [operation, bind_of_ok _ line_cons]
  rw [if_neg noNot, if_neg noComparison, if_neg noTightest, bind_of_ok _ tighter, operators_stop h]

theorem operation_comparison (h : stop.token ∈ stops)
    (tighter : operation (fuel + 1) depth 4 ⟨first :: more, none, last⟩ =
      .ok (e, beforeStop stop rest last')) :
    operation (fuel + 2) depth 3 ⟨first :: more, none, last⟩ =
      .ok (e, beforeStop stop rest last') := by
  rw [operation, bind_of_ok _ line_cons]
  rw [if_neg (by decide), if_pos rfl, bind_of_ok _ tighter, bind_of_ok _ (comparisons_stop h)]
  rfl

theorem operation_negation (other : first.token ≠ .name "not")
    (tighter : operation (fuel + 1) depth 3 ⟨first :: more, none, last⟩ =
      .ok (e, beforeStop stop rest last')) :
    operation (fuel + 2) depth 2 ⟨first :: more, none, last⟩ =
      .ok (e, beforeStop stop rest last') := by
  rw [operation, bind_of_ok _ line_cons]
  rw [if_pos rfl, bind_of_ok _ (skip_of_ne other), if_neg Bool.false_ne_true, tighter]

/-- What the tightest level reads before a stop is all of an expression. From the tightest level to
the loosest, each takes one step of the fuel. -/
theorem expr_alone (h : stop.token ∈ stops) (other : first.token ≠ .name "not")
    (shallow : depth + 1 ≤ deepest)
    (tightest : operation (fuel + 2) (depth + 1) 8 ⟨first :: more, none, last⟩ =
      .ok (e, beforeStop stop rest last')) :
    expr (fuel + 11) depth ⟨first :: more, none, last⟩ = .ok (e, beforeStop stop rest last') := by
  have power := operation_binary (by decide) h tightest
  have product := operation_binary (by decide) h power
  have joined := operation_binary (by decide) h product
  have sum := operation_binary (by decide) h joined
  have negation := operation_negation other (operation_comparison h sum)
  have both := operation_binary (by decide) h negation
  have either := operation_binary (by decide) h both
  rw [expr, bind_of_ok _ (guard_of_le shallow), bind_of_ok _ line_cons, bind_of_ok _ either,
    choices_stop h]

theorem primary_name (free : constant? name = none) (h : depth < deepest) :
    primary (fuel + 1) depth ⟨⟨.name name, own⟩ :: rest, none, last⟩ =
      .ok (.var own name, ⟨rest, none, own⟩) := by
  have noMinus : skip (.mark .minus) ⟨⟨.name name, own⟩ :: rest, none, last⟩ =
      .ok (false, ⟨⟨.name name, own⟩ :: rest, none, last⟩) := skip_of_ne nofun
  rw [primary, bind_of_ok _ line_cons, bind_of_ok _ noMinus]
  dsimp only
  rw [if_neg Bool.false_ne_true, bind_of_ok _ (guard_of_le h), bind_of_ok _ must_cons]
  dsimp only
  rw [free]
  rfl

theorem constant?_of_free (free : name ∉ keywords) : constant? name = none := by
  unfold constant?
  split <;> first | rfl | exact absurd (by decide) free

theorem ne_not_of_free (free : name ∉ keywords) : Token.name name ≠ .name "not" := by
  rintro same
  obtain rfl := Token.name.inj same
  exact free (by decide)

/-- A name that is no keyword, before a stop, is a variable. -/
theorem expr_name (free : name ∉ keywords) (h : stop.token ∈ stops) (shallow : depth + 1 < deepest) :
    expr (fuel + 11) depth ⟨⟨.name name, own⟩ :: stop :: rest, none, last⟩ =
      .ok (.var own name, beforeStop stop rest own) := by
  refine expr_alone h (ne_not_of_free free) (Nat.le_of_lt shallow) ?_
  rw [operation, bind_of_ok _ line_cons]
  rw [if_neg (by decide), if_neg (by decide), if_pos rfl,
    bind_of_ok _ (primary_name (constant?_of_free free) shallow),
    bind_of_ok _ (postfixes_stop h _), filters_stop h]

theorem expect_end {line : Nat} :
    expect .printEnd (beforeStop ⟨.printEnd, line⟩ rest last) = .ok ((), ⟨rest, none, line⟩) :=
  expect_cons

end Alone

section Body

variable {ends : List String} {statements : List Stmt} {inside : List Lexeme} {e : Expr}
  {start stop own : Nat}

theorem body_nil : body (fuel + 1) depth ends ⟨[], none, last⟩ = .ok ([], ⟨[], none, last⟩) := by
  rw [body]
  rfl

theorem body_text (text : String) {line : Nat}
    (later : body fuel depth ends ⟨rest, none, line⟩ = .ok (statements, next)) :
    body (fuel + 1) depth ends ⟨⟨.data text, line⟩ :: rest, none, last⟩ =
      .ok (.text text :: statements, next) := by
  rw [body, bind_of_ok _ line_cons, bind_of_ok _ take_cons]
  dsimp only
  rw [bind_of_ok _ later]
  rfl

theorem body_print
    (read : expr fuel depth ⟨inside ++ ⟨.printEnd, stop⟩ :: rest, none, start⟩ =
      .ok (e, beforeStop ⟨.printEnd, stop⟩ rest own))
    (later : body fuel depth ends ⟨rest, none, stop⟩ = .ok (statements, next)) :
    body (fuel + 1) depth ends
        ⟨⟨.printStart, start⟩ :: (inside ++ ⟨.printEnd, stop⟩ :: rest), none, last⟩ =
      .ok (.print start e :: statements, next) := by
  rw [body, bind_of_ok _ line_cons, bind_of_ok _ take_cons]
  dsimp only
  rw [bind_of_ok _ read, bind_of_ok _ expect_end, bind_of_ok _ later]
  rfl

theorem body_variable {name : String} (free : name ∉ keywords)
    (later : body (fuel + 11) 0 ends ⟨rest, none, stop⟩ = .ok (statements, next)) :
    body (fuel + 12) 0 ends
        ⟨⟨.printStart, start⟩ :: ⟨.name name, own⟩ :: ⟨.printEnd, stop⟩ :: rest, none, last⟩ =
      .ok (.print start (.var own name) :: statements, next) := by
  have whole : expr (fuel + 11) 0 ⟨[⟨.name name, own⟩] ++ ⟨.printEnd, stop⟩ :: rest, none, start⟩ =
      .ok (.var own name, beforeStop ⟨.printEnd, stop⟩ rest own) :=
    expr_name free List.mem_cons_self (by decide)
  exact body_print whole later

end Body

/-- The tokens of a form are read as statements that print its parts. By induction on the tokens: a
text takes one of them, and a print tag three. -/
theorem body_spells {parts : List Part} {lexemes : List Lexeme} (spells : Spells parts lexemes)
    (free : ∀ name, .print name ∈ parts → name ∉ keywords) (fuel last : Nat)
    (enough : lexemes.length + 12 ≤ fuel) :
    ∃ statements next, body fuel 0 [] ⟨lexemes, none, last⟩ = .ok (statements, next) ∧
      Prints parts statements := by
  induction spells generalizing fuel last with
  | nil =>
    obtain ⟨fuel, rfl⟩ : ∃ less, fuel = less + 1 := ⟨fuel - 1, by omega⟩
    exact ⟨[], ⟨[], none, last⟩, body_nil, .nil⟩
  | text text line rest ih =>
    obtain ⟨fuel, rfl⟩ : ∃ less, fuel = less + 1 := ⟨fuel - 1, by omega⟩
    obtain ⟨statements, next, read, prints⟩ := ih
      (fun name inRest => free name (List.mem_cons_of_mem _ inRest)) fuel line
      (by rw [List.length_cons] at enough; omega)
    exact ⟨.text text :: statements, next, body_text text read, .text text prints⟩
  | print name start own stop rest ih =>
    obtain ⟨fuel, rfl⟩ : ∃ less, fuel = less + 12 := ⟨fuel - 12, by omega⟩
    obtain ⟨statements, next, read, prints⟩ := ih
      (fun name inRest => free name (List.mem_cons_of_mem _ inRest)) (fuel + 11) stop
      (by simp only [List.length_cons] at enough; omega)
    have named : name ∉ keywords := free name List.mem_cons_self
    exact ⟨.print start (.var own name) :: statements, next, body_variable named read,
      .print name start own prints⟩

end Reading

theorem parse_of_body {source : String} {lexemes : List Lexeme} {page : List Stmt}
    {next : Cursor} (scanned : Scan.ofSource source = ⟨lexemes, none⟩)
    (read : Reading.body (Reading.enough lexemes.length) 0 [] ⟨lexemes, none, 1⟩ =
      .ok (page, next)) :
    parse source = .ok page := by
  rw [parse, scanned, Reading.page, StateT.run, read]
  rfl

/-- A source whose tokens spell the parts of a form is read as a page that prints them. -/
theorem parse_of_spells {source : String} {form : Form} {lexemes : List Lexeme}
    (scanned : Scan.ofSource source = ⟨lexemes, none⟩) (spells : Spells form.parts lexemes)
    (free : ∀ field ∈ form.fields, field.name ∉ keywords) :
    ∃ page, parse source = .ok page ∧ Prints form.parts page := by
  have names : ∀ name, .print name ∈ form.parts → name ∉ keywords := by
    intro name printed
    obtain ⟨field, inForm, rfl⟩ := Form.mem_parts printed
    exact free field inForm
  have enough : lexemes.length + 12 ≤ Reading.enough lexemes.length := by
    unfold Reading.enough
    omega
  obtain ⟨page, next, read, prints⟩ := Reading.body_spells spells names _ 1 enough
  exact ⟨page, parse_of_body scanned read, prints⟩

theorem parse_form {form : Form} (plain : form.Plain)
    (free : ∀ field ∈ form.fields, field.name ∉ keywords) :
    ∃ page, parse form.source = .ok page ∧ Prints form.parts page := by
  obtain ⟨lexemes, scanned, spells⟩ := Scan.ofSource_form plain
  exact parse_of_spells scanned spells free

end Templating.Page
