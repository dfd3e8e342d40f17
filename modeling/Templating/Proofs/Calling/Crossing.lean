import Templating.Dialect
import Templating.Proofs.Calling.PageRun
import Templating.Proofs.Calling.SheetRun
import Templating.Proofs.Render.Faults

/-! Calls of registry functions cross into and out of every dialect without loss: the function gets the
values that the arguments denote, and what it gives is printed as the data of a variable is. -/

namespace Templating

namespace Dialect

variable {dialect : Dialect} {label source : String} {functions : Registry} {data : Json}

/-- What a printed call of a function of the registry comes to, without a signal. The function is
called once. What it gives is printed as the variable `shown` is where the data binds it to that, and
its failure is the failure of the render. -/
structure Crosses (dialect : Dialect) (label : String) (functions : Registry) (source : String)
    (data : Json) (callee : String) (passed : List Json) (f : Function) (shown : String) : Prop where
  returned : ∀ value, f passed = .ok value → ∃ called printed run,
    dialect.parser.parse label functions source = .ok called ∧
    dialect.parser.parse label functions (printTag shown) = .ok printed ∧
    dialect.runOf label functions (printTag shown) (.obj [(shown, value)]) false = .ok run ∧
    (∀ name arguments, .call name arguments ∉ run.events) ∧
    dialect.runOf label functions source data false =
      .ok ⟨.call callee passed :: run.events, run.outcome⟩ ∧
    ∀ tree sink, called.send (.ofData data) tree sink =
      printed.send (.ofData (.obj [(shown, value)])) tree sink
  failed : ∀ message, f passed = .error message → ∃ called cause before after,
    dialect.parser.parse label functions source = .ok called ∧
    dialect.runOf label functions source data false =
      .ok ⟨[.call callee passed], .error (.execute cause)⟩ ∧
    cause.message = before ++ "function \x60" ++ callee ++ "\x60 failed: " ++ message ++ after ∧
    ∀ tree sink, (called.send (.ofData data) tree sink).fault? = some (.execute cause)

/-- A call crosses where its run, and the run of the variable, are as follows. -/
theorem Crosses.of_runs {callee shown : String} {passed : List Json} {f : Function}
    {callTree showTree : dialect.Tree} {text : Json → String} {cause : String → ExecutionFault}
    (read : dialect.read label source = .ok callTree)
    (readShown : dialect.read label (printTag shown) = .ok showTree)
    (printed : ∀ value, dialect.run label functions showTree (.obj [(shown, value)]) false =
      .text (text value))
    (called : dialect.run label functions callTree data false =
      .ofCall callee passed text cause (f passed))
    (mentions : ∀ message, ∃ before after, (cause message).message =
      before ++ "function \x60" ++ callee ++ "\x60 failed: " ++ message ++ after) :
    dialect.Crosses label functions source data callee passed f shown where
  returned value returns := by
    rw [returns] at called
    refine ⟨_, _, .text (text value), parse_of_read functions read, parse_of_read functions readShown,
      (runOf_of_read functions _ false readShown).trans (congrArg Except.ok (printed value)), ?_,
      (runOf_of_read functions data false read).trans (congrArg Except.ok called), ?_⟩
    · intro name arguments inRun
      cases List.mem_singleton.mp inRun
    · refine Template.send_eq fun writer => ?_
      simp only [Executor.execute, Executor.ofDataRuns, Executor.ofRuns, Context.ofData,
        Option.isSome_none, called, printed]
      rfl
  failed message fails := by
    rw [fails] at called
    obtain ⟨before, after, spelled⟩ := mentions message
    refine ⟨_, cause message, before, after, parse_of_read functions read,
      (runOf_of_read functions data false read).trans (congrArg Except.ok called), spelled, fun tree sink => ?_⟩
    refine (Template.send_of_verdict tree ?_).1
    simp only [Executor.execute, Executor.ofDataRuns, Executor.ofRuns, Context.ofData,
      Option.isSome_none, called]
    rfl

end Dialect

namespace Page

variable {setting : Setting} {data : Json} {invocation : Invocation} {values : List Json}
  {label shown : String} {functions : Registry} {f : Function}

/-- The names that a page calls in ways of its own, and the name of all the data. -/
def reservedCallees : List String := ["loop", "super", "data"]

/-- Calls that a page reads as calls of what their names stand for. -/
structure Callable (invocation : Invocation) : Prop where
  named : Identifier invocation.callee
  free : invocation.callee ∉ keywords
  unreserved : invocation.callee ∉ reservedCallees
  plain : ∀ argument ∈ invocation.arguments, argument.operand.Plain
  outside : ∀ argument ∈ invocation.arguments, argument.operand.Outside keywords

instance (invocation : Invocation) : Decidable (Callable invocation) :=
  decidable_of_iff
    (Identifier invocation.callee ∧ invocation.callee ∉ keywords ∧
      invocation.callee ∉ reservedCallees ∧ (∀ argument ∈ invocation.arguments,
        argument.operand.Plain) ∧ ∀ argument ∈ invocation.arguments,
        argument.operand.Outside keywords)
    ⟨fun ⟨named, free, unreserved, plain, outside⟩ => ⟨named, free, unreserved, plain, outside⟩,
      fun ⟨named, free, unreserved, plain, outside⟩ => ⟨named, free, unreserved, plain, outside⟩⟩

theorem stands_of_denotes {operand : Operand} {value : Json} (denotes : operand.Denotes data value) :
    Rendering.Stands setting (start data false) operand (.ofJson value) := by
  cases operand with
  | var name => exact find?_start (lookup_rootVariables denotes nofun)
  | text text =>
    obtain rfl : value = .str text := denotes
    rfl

theorem properItems_of_forall (proper : ∀ value ∈ values, value.Proper) :
    Json.ProperItems values := by
  induction values with
  | nil => trivial
  | cons value rest ih =>
    exact ⟨proper value List.mem_cons_self,
      ih fun other inRest => proper other (List.mem_cons_of_mem _ inRest)⟩

theorem run_variable {value : Json} (start own : Nat) :
    run setting [.print start (.var own shown)] (.obj [(shown, value)]) false =
      .text (Rendering.shown setting (.ofJson value)) := by
  have bound : (Json.obj [(shown, value)]).field? shown = some value := by
    rw [Json.field?, Assoc.get?_cons, if_pos rfl]
  have inSight : Rendering.Machine.find? setting shown (Page.start (.obj [(shown, value)]) false) =
      some (.ofJson value) := find?_start (lookup_rootVariables bound nofun)
  have noLoop : Rendering.NoLoop (.var own shown) := nofun
  exact run_print_of_ok start noLoop (fun calls => Rendering.eval_var own inSight) rfl
    (Value.isMissing_ofJson value)

theorem message_of_function (callee message page : String) (line : Nat) :
    (PageFault.mk .invalidOperation (some ⟨callee, message⟩) (some ⟨page, line⟩)).message =
      "invalid operation" ++ ": " ++ "function \x60" ++ callee ++ "\x60 failed: " ++ message ++
        (" (in " ++ page ++ ":" ++ toString line ++ ")") := by
  simp only [PageFault.message, PageFault.Kind.text, FunctionFault.text, String.append_assoc]

theorem call_crosses (escapes : Bool) (label : String) (callable : Callable invocation)
    (registered : functions.get? invocation.callee = some f)
    (free : data.field? invocation.callee = none)
    (denote : List.Forall₂ (fun argument => argument.operand.Denotes data) invocation.arguments
      values)
    (proper : ∀ value ∈ values, value.Proper) (named : Identifier shown) (plain : shown ∉ keywords) :
    (dialect escapes).Crosses label functions invocation.pageSource data invocation.callee values f
      shown := by
  obtain ⟨start, line, places, same, parsed⟩ :=
    parse_call callable.named callable.free callable.plain callable.outside
  obtain ⟨start', own, parsedShown⟩ := parse_variable named plain
  have unreserved := callable.unreserved
  simp only [reservedCallees, List.mem_cons, List.not_mem_nil, or_false, not_or] at unreserved
  obtain ⟨noLoop, noSuper, noWhole⟩ := unreserved
  have stand : List.Forall₂ (fun argument => Rendering.Stands ⟨label, escapes, functions⟩
      (Page.start data false) argument.operand) invocation.arguments (values.map Value.ofJson) :=
    List.forall₂_map_right_iff.mpr (denote.imp fun _ _ => stands_of_denotes)
  have given : Value.toItems? (values.map Value.ofJson) = some values := by
    rw [← Value.ofItems_eq_map]
    exact Value.toItems?_ofItems values (properItems_of_forall proper)
  have unbound : Unbound data false invocation.callee := ⟨free, noWhole, nofun⟩
  have read : (dialect escapes).read label invocation.pageSource =
      .ok [.print start (.call line (.var line invocation.callee) places)] :=
    congrArg (Except.mapError _) parsed
  have readShown : (dialect escapes).read label (printTag shown) =
      .ok [.print start' (.var own shown)] := congrArg (Except.mapError _) parsedShown
  refine .of_runs read readShown (fun value => run_variable start' own)
    (run_call_function start line noSuper noLoop unbound registered same stand given)
    fun message => ?_
  exact ⟨_, _, message_of_function invocation.callee message label (argumentLinesAfter line places)⟩

end Page

namespace Sheet

variable {data : Json} {invocation : Invocation} {values : List Json} {label shown : String}
  {functions : Registry} {f : Function}

/-- Calls that a sheet reads as calls, with variables that only the data gives. -/
structure Callable (invocation : Invocation) : Prop where
  free : Free invocation.callee
  named : ∀ argument ∈ invocation.arguments, Identifier argument.label
  fit : ∀ argument ∈ invocation.arguments, Fits argument.operand
  notWhole : ∀ argument ∈ invocation.arguments, argument.operand ≠ .var Scope.wholeName

instance (invocation : Invocation) : Decidable (Callable invocation) :=
  decidable_of_iff
    (Free invocation.callee ∧ (∀ argument ∈ invocation.arguments, Identifier argument.label) ∧
      (∀ argument ∈ invocation.arguments, Fits argument.operand) ∧
      ∀ argument ∈ invocation.arguments, argument.operand ≠ .var Scope.wholeName)
    ⟨fun ⟨free, named, fit, notWhole⟩ => ⟨free, named, fit, notWhole⟩,
      fun ⟨free, named, fit, notWhole⟩ => ⟨free, named, fit, notWhole⟩⟩

theorem stands_of_denotes {operand : Operand} {value : Json} (fits : Fits operand)
    (notWhole : operand ≠ .var Scope.wholeName) (denotes : operand.Denotes data value) :
    Rendering.Stands (Scope.start data) operand value := by
  cases operand with
  | var name => exact value?_start fits.named (fun same => notWhole (congrArg _ same)) denotes
  | text text => exact denotes

/-- What an operand denotes. -/
def denoted (data : Json) : Operand → Json
  | .var name => (data.field? name).getD .null
  | .text text => .str text

theorem denoted_of_denotes {operand : Operand} {value : Json} (denotes : operand.Denotes data value) :
    denoted data operand = value := by
  cases operand with
  | var name =>
    have bound : data.field? name = some value := denotes
    rw [denoted, bound, Option.getD_some]
  | text text => exact denotes.symm

theorem map_denoted {arguments : List Labelled}
    (denote : List.Forall₂ (fun argument => argument.operand.Denotes data) arguments values) :
    (∀ argument ∈ arguments, argument.operand.Denotes data (denoted data argument.operand)) ∧
      (arguments.map fun argument => (argument.label, denoted data argument.operand)) =
        (arguments.map (·.label)).zip values := by
  induction denote with
  | nil => exact ⟨nofun, rfl⟩
  | @cons argument value rest others here _ ih =>
    have same := denoted_of_denotes here
    refine ⟨List.forall_mem_cons.mpr ⟨same ▸ here, ih.1⟩, ?_⟩
    rw [List.map_cons, List.map_cons, List.zip_cons_cons, same, ih.2]

theorem run_variable {value : Json} (free : Free shown) (notWhole : shown ≠ Scope.wholeName) :
    run label functions [.print (.ofName shown)] (.obj [(shown, value)]) false =
      .text (display value) := by
  have bound : (Json.obj [(shown, value)]).field? shown = some value := by
    rw [Json.field?, Assoc.get?_cons, if_pos rfl]
  exact run_print_of_ok label (Rendering.value_name (value?_start free.named notWhole bound))

theorem message_of_function (callee message sheet : String) :
    (ExecutionFault.sheet sheet (some ⟨callee, message⟩)).message =
      ("Failed to render '" ++ sheet ++ "'" ++ ": ") ++ "function \x60" ++ callee ++
        "\x60 failed: " ++ message ++ "" := by
  have parts : (ExecutionFault.sheet sheet (some ⟨callee, message⟩)).message =
      "Failed to render '" ++ sheet ++ "'" ++ (": " ++ FunctionFault.text ⟨callee, message⟩) := rfl
  rw [parts]
  simp only [FunctionFault.text, String.append_assoc, String.append_empty]

theorem call_crosses (label : String) (callable : Callable invocation)
    (registered : functions.get? invocation.callee = some f)
    (denote : List.Forall₂ (fun argument => argument.operand.Denotes data) invocation.arguments
      values)
    (free : Free shown) (notWhole : shown ≠ Scope.wholeName) :
    dialect.Crosses label functions invocation.sheetSource data invocation.callee
      [Json.ofFields ((invocation.arguments.map (·.label)).zip values)] f shown := by
  obtain ⟨denotes, same⟩ := map_denoted denote
  have read : dialect.read label invocation.sheetSource =
      .ok [.print (Nested.callExpr invocation.callee invocation.arguments)] :=
    dialect_read label (parse?_call callable.free callable.named callable.fit)
  have readShown : dialect.read label (printTag shown) = .ok [.print (.ofName shown)] :=
    dialect_read label (parse?_variable free)
  have stand : ∀ argument ∈ invocation.arguments,
      Rendering.Stands (Scope.start data) argument.operand (denoted data argument.operand) :=
    fun argument inCall => stands_of_denotes (callable.fit argument inCall)
      (callable.notWhole argument inCall) (denotes argument inCall)
  have noMark : (false && invocation.callee == "abort") = false := rfl
  have called := run_call_function label noMark registered stand
  rw [same, ← dialect_run] at called
  have printed : ∀ value, dialect.run label functions [.print (.ofName shown)]
      (.obj [(shown, value)]) false = .text (display value) :=
    fun value => (dialect_run ..).trans (run_variable free notWhole)
  exact .of_runs read readShown printed called fun message =>
    ⟨_, _, message_of_function invocation.callee message label⟩

end Sheet

/-- A printed call of a registry function, on pages and on sheets, and without a signal. A page passes
the values of the arguments as they are in the data, and a sheet passes them as one object. On a page
alone, a field of the data stands before the function of its name. -/
theorem functions_cross (label : String) (functions : Registry) {f : Function}
    (invocation : Invocation) {data : Json} {values : List Json} (shown : String)
    (registered : functions.get? invocation.callee = some f)
    (denote : List.Forall₂ (fun argument => argument.operand.Denotes data) invocation.arguments
      values) :
    (Page.Callable invocation → data.field? invocation.callee = none →
      (∀ value ∈ values, value.Proper) → Identifier shown → shown ∉ Page.keywords → ∀ escapes,
      (Page.dialect escapes).Crosses label functions invocation.pageSource data invocation.callee
        values f shown) ∧
    (Sheet.Callable invocation → Sheet.Free shown → shown ≠ Sheet.Scope.wholeName →
      Sheet.dialect.Crosses label functions invocation.sheetSource data invocation.callee
        [Json.ofFields ((invocation.arguments.map (·.label)).zip values)] f shown) :=
  ⟨fun callable free proper named plain escapes =>
      Page.call_crosses escapes label callable registered free denote proper named plain,
    fun callable freeShown notWhole =>
      Sheet.call_crosses label callable registered denote freeShown notWhole⟩

/-- A function that gives back the first of its arguments, and fails without one. -/
def echo : Function
  | value :: _ => .ok value
  | [] => .error "nothing to echo"

def echoing : Invocation := ⟨"echo", [⟨"item", .var "x"⟩, ⟨"kind", .text "a"⟩]⟩

example : echoing.pageSource = "\x7b\x7b echo(x, 'a') \x7d\x7d" := by decide

example : echoing.sheetSource = "\x7b\x7b echo(item=x, kind=\"a\") \x7d\x7d" := by decide

def nestedData : Json := .obj [("x", .arr [.int 18446744073709551615, .null, .obj [("k", .str "<")]])]

theorem nested_argument_crosses :
    (Page.dialect true).Crosses "page" (.ofList [("echo", echo)]) echoing.pageSource nestedData
      "echo" [.arr [.int 18446744073709551615, .null, .obj [("k", .str "<")]], .str "a"] echo "y" ∧
    Sheet.dialect.Crosses "sheet" (.ofList [("echo", echo)]) echoing.sheetSource nestedData "echo"
      [.obj [("item", .arr [.int 18446744073709551615, .null, .obj [("k", .str "<")]]),
        ("kind", .str "a")]] echo "y" := by
  have denote : List.Forall₂ (fun argument => argument.operand.Denotes nestedData)
      echoing.arguments
      [.arr [.int 18446744073709551615, .null, .obj [("k", .str "<")]], .str "a"] :=
    .cons rfl (.cons rfl .nil)
  have proper : ∀ value ∈ [Json.arr [.int 18446744073709551615, .null, .obj [("k", .str "<")]],
      .str "a"], value.Proper := by
    refine List.forall_mem_cons.mpr ⟨?_, List.forall_mem_singleton.mpr trivial⟩
    exact ⟨⟨by decide, by decide⟩, trivial, ⟨List.pairwise_singleton _ _, trivial, trivial⟩, trivial⟩
  exact ⟨(functions_cross "page" (.ofList [("echo", echo)]) echoing "y" rfl denote).1 (by decide) rfl
      proper (by decide) (by decide) true,
    (functions_cross "sheet" (.ofList [("echo", echo)]) echoing "y" rfl denote).2 (by decide)
      (by decide) (by decide)⟩

/-- A function that always gives the same. -/
def constant (_ : List Json) : Except String Json := .ok (.str "v")

/-- On a page the name of all the data is called in place of a function, and on a sheet a name that
starts with a constant is read as the constant. -/
theorem whole_and_constants_hide_functions :
    (Identifier "data" ∧ "data" ∉ Page.keywords ∧ (Json.obj []).field? "data" = none ∧ ∃ cause,
      (Page.dialect false).runOf "t" (.ofList [("data", constant)])
        (Invocation.mk "data" []).pageSource (.obj []) false =
          .ok ⟨[], .error (.execute cause)⟩) ∧
    (Identifier "trueish" ∧ "trueish" ∉ Sheet.constants ∧ "trueish" ≠ "not" ∧
      Sheet.dialect.runOf "t" (.ofList [("trueish", constant)])
        (Invocation.mk "trueish" [⟨"a", .var "x"⟩]).sheetSource (.obj [("x", .str "a")]) false =
          .error (.source (.sheet "t"))) := by
  refine ⟨⟨by decide, by decide, rfl, ?_⟩, by decide, by decide, by decide, ?_⟩
  · obtain ⟨start, line, places, same, parsed⟩ : ∃ start line places, Page.Places [] places ∧
        Page.parse (Invocation.mk "data" []).pageSource =
          .ok [.print start (.call line (.var line "data") places)] :=
      @Page.parse_call ⟨"data", []⟩ (by decide) (by decide) nofun nofun
    have read : (Page.dialect false).read "t" (Invocation.mk "data" []).pageSource =
        .ok [.print start (.call line (.var line "data") places)] :=
      congrArg (Except.mapError _) parsed
    have inSight : Page.Rendering.Machine.find? ⟨"t", false, .ofList [("data", constant)]⟩ "data"
        (Page.start (.obj []) false) = some (.ofJson (.obj [])) := Page.find?_start rfl
    exact ⟨_, (Dialect.runOf_of_read _ _ false read).trans (congrArg Except.ok
      (Page.run_call_value start line (by decide) (by decide) inSight same .nil))⟩
  · have unread : Sheet.parse? (Invocation.mk "trueish" [⟨"a", .var "x"⟩]).sheetSource = none :=
      Option.isNone_iff_eq_none.mp (by decide +kernel)
    simp only [Dialect.runOf, Sheet.dialect, unread]
    rfl

end Templating
