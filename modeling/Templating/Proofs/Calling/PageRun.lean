import Templating.Proofs.Calling.PageTree
import Templating.Proofs.Printing.PagePrint

/-! Running a printed call on a page: the operands are looked up in order, and the function gets their
values as JSON. JSON that is proper comes through the values of pages as it was. -/

namespace Templating

namespace Page

namespace Value

mutual

/-- The value of proper JSON leads back to the JSON. -/
theorem toJson?_ofJson (value : Json) (proper : value.Proper) :
    (ofJson value).toJson? = some value := by
  match value, proper with
  | .null, _ => rfl
  | .bool b, _ => rfl
  | .int n, proper => exact if_pos proper
  | .float x, proper =>
    have finite : x.isFinite = true := proper
    rw [ofJson, toJson?, if_pos finite]
  | .str text, _ => rfl
  | .arr items, proper =>
    rw [ofJson, toJson?, toItems?_ofItems items proper]
    rfl
  | .obj fields, proper =>
    rw [ofJson, toJson?, toFields?_ofFields fields proper.2, Option.map_some, Json.ofFields,
      Assoc.ofList_of_sorted proper.1]
termination_by structural value

theorem toItems?_ofItems (items : List Json) (proper : Json.ProperItems items) :
    toItems? (ofItems items) = some items := by
  match items, proper with
  | [], _ => rfl
  | item :: rest, proper =>
    rw [ofItems, toItems?, toJson?_ofJson item proper.1, toItems?_ofItems rest proper.2]
    rfl
termination_by structural items

theorem toFields?_ofFields (fields : List (String × Json)) (proper : Json.ProperFields fields) :
    toFields? (ofFields fields) = some fields := by
  match fields, proper with
  | [], _ => rfl
  | (name, value) :: rest, proper =>
    rw [ofFields, toFields?, toJson?_ofJson value proper.1, toFields?_ofFields rest proper.2]
    rfl
termination_by structural fields

end

theorem ofItems_eq_map (items : List Json) : ofItems items = items.map ofJson := by
  induction items with
  | nil => rfl
  | cons item rest ih => rw [ofItems, List.map_cons, ih]

theorem isMissing_ofJson (value : Json) : (ofJson value).isMissing = false := by
  cases value <;> rfl

end Value

namespace Rendering

section Call

variable {calls : Calls} {setting : Setting} {machine : Machine} {name : String}
  {arguments : List Labelled} {places : List Argument} {values : List Value} {f : Function}

/-- What an operand stands for on a machine. -/
def Stands (setting : Setting) (machine : Machine) : Operand → Value → Prop
  | .var name, value => Machine.find? setting name machine = some value
  | .text text, value => value = .text text

theorem eval_operand {operand : Operand} {value : Value} (line : Nat)
    (stands : Stands setting machine operand value) :
    (eval calls setting (operandExpr line operand)).run.run machine = (.ok value, machine) := by
  cases operand with
  | var name => exact eval_var line stands
  | text text =>
    obtain rfl : value = .text text := stands
    rfl

theorem evalPlaces_places (same : Places arguments places)
    (stand : List.Forall₂ (fun argument => Stands setting machine argument.operand) arguments
      values) :
    (evalPlaces calls setting places).run.run machine = (.ok (values.map (false, ·)), machine) := by
  induction same generalizing values with
  | nil =>
    obtain rfl := List.forall₂_nil_left_iff.mp stand
    rfl
  | @cons argument _ _ _ here _ ih =>
    obtain ⟨line, rfl⟩ := here
    obtain ⟨value, others, stands, later, rfl⟩ := List.forall₂_cons_left_iff.mp stand
    have place : (evalPlace calls setting (.place (operandExpr line argument.operand))).run.run
        machine = (.ok (some (false, value)), machine) := by
      rw [evalPlace, run_bind_of_ok _ (eval_operand line stands)]
      rfl
    rw [evalPlaces, run_bind_of_ok _ place, run_bind_of_ok _ (ih later)]
    rfl

theorem evalNamed_places (same : Places arguments places) :
    (evalNamed calls setting places).run.run machine = (.ok [], machine) := by
  induction same with
  | nil => rfl
  | @cons argument _ _ _ here _ ih =>
    obtain ⟨line, rfl⟩ := here
    have place : (evalName calls setting (.place (operandExpr line argument.operand))).run.run
        machine = (.ok none, machine) := rfl
    rw [evalNamed, run_bind_of_ok _ place, run_bind_of_ok _ ih]
    rfl

theorem spreadPlaces_places (values : List Value) :
    spreadPlaces (values.map (false, ·)) = .ok values := by
  induction values with
  | nil => rfl
  | cons value rest ih =>
    rw [List.map_cons, spreadPlaces, ih]
    rfl

theorem withKeywords_places (values : List Value) :
    withKeywords (values.map (false, ·)) [] = .ok values := by
  rw [withKeywords, spreadPlaces_places]
  rfl

/-- A name that is called with operands is called with what they stand for. -/
theorem eval_call (line own : Nat) (same : Places arguments places)
    (stand : List.Forall₂ (fun argument => Stands setting machine argument.operand) arguments
      values) :
    (eval calls setting (.call line (.var own name) places)).run.run machine =
      (callName calls setting (argumentLinesAfter line places) name values).run.run machine := by
  rw [eval, run_bind_of_ok _ (evalPlaces_places same stand),
    run_bind_of_ok _ (evalNamed_places same), withKeywords_places]
  rfl

theorem callName_of_some {callee : Value} (line : Nat) (noSuper : name ≠ "super")
    (noLoop : name ≠ "loop") (found : Machine.find? setting name machine = some callee) :
    (callName calls setting line name values).run.run machine =
      (callValue calls setting line callee values).run.run machine := by
  rw [callName, if_neg noSuper, if_neg noLoop, run_bind_of_ok _ find?_run, found]

/-- A function of the registry is called once, with JSON that its arguments lead back to. -/
theorem callValue_function {passed : List Json} (line : Nat)
    (registered : setting.functions.get? name = some f)
    (given : Value.toItems? values = some passed) :
    (callValue calls setting line (.function name) values).run.run machine =
      (match f passed with
        | .ok value => .ok (.ofJson value)
        | .error message =>
          .error ⟨.invalidOperation, some ⟨name, message⟩, some ⟨setting.label, line⟩⟩,
        { machine with steps := .call name passed :: machine.steps }) := by
  rw [callValue]
  simp only [registered, callRegistered, given]
  cases f passed <;> rfl

/-- The function that marks takes at most one text, for its reason. -/
theorem callValue_abort {arguments : List Value} {reason? : Option String} (line : Nat)
    (given : arguments = (reason?.map Value.text).toList) :
    (callValue calls setting line .abort arguments).run.run machine =
      (.ok (.text ""), { machine with
        steps := .abort (reason?.getD Signal.defaultReason) :: machine.steps }) := by
  subst given
  cases reason? <;> rfl

theorem callValue_ofJson {value : Json} (line : Nat) :
    (callValue calls setting line (.ofJson value) values).run.run machine =
      (.error ⟨.invalidOperation, none, some ⟨setting.label, line⟩⟩, machine) := by
  cases value <;> rfl

theorem callName_of_none (line : Nat) (noSuper : name ≠ "super") (noLoop : name ≠ "loop")
    (missing : Machine.find? setting name machine = none) :
    (callName calls setting line name values).run.run machine =
      (.error ⟨.unknownFunction, none, some ⟨setting.label, line⟩⟩, machine) := by
  rw [callName, if_neg noSuper, if_neg noLoop, run_bind_of_ok _ find?_run, missing]
  rfl

end Call

section Print

variable {setting : Setting} {machine next : Machine} {e : Expr} {value : Value}
  {fault : PageFault}

/-- A call of a loop is printed in its own way. -/
def NoLoop (e : Expr) : Prop :=
  ∀ line own argument, e ≠ .call line (.var own "loop") [.place argument]

theorem exec_print_of_ok (calls : Calls) (line : Nat) (noLoop : NoLoop e)
    (evaluated : (eval calls setting e).run.run machine = (.ok value, next))
    (h : next.captures = []) (present : value.isMissing = false) :
    (exec calls setting (.print line e)).run.run machine =
      (.ok (), { next with
        steps := .write (Utf8.encode (shown setting value)) :: next.steps }) := by
  rw [exec]
  · rw [run_bind_of_ok _ evaluated]
    exact printed_run _ h present
  · exact fun line own argument same => noLoop line own argument same

theorem exec_print_of_error (calls : Calls) (line : Nat) (noLoop : NoLoop e)
    (evaluated : (eval calls setting e).run.run machine = (.error fault, next)) :
    (exec calls setting (.print line e)).run.run machine = (.error fault, next) := by
  rw [exec]
  · exact run_bind_of_error _ evaluated
  · exact fun line own argument same => noLoop line own argument same

end Print

end Rendering

section Run

variable {setting : Setting} {data : Json} {hasSignal : Bool} {e : Expr} {value : Value}
  {next : Machine} {fault : PageFault}

/-- The run of a page that prints a value. -/
theorem run_print_of_ok (line : Nat) (noLoop : Rendering.NoLoop e)
    (evaluated : ∀ calls, (Rendering.eval calls setting e).run.run (start data hasSignal) =
      (.ok value, next))
    (h : next.captures = []) (present : value.isMissing = false) :
    run setting [.print line e] data hasSignal =
      ⟨next.steps.reverse ++ [.write (Utf8.encode (Rendering.shown setting value))], .ok ()⟩ := by
  have first := Rendering.exec_print_of_ok
    (Rendering.callsOf setting [.print line e] (Rendering.deepest + 1)) line noLoop
    (evaluated _) h present
  rw [run, show (⟨[_], 0, [], [], [], []⟩ : Machine) = start data hasSignal from rfl,
    Rendering.execAll, run_bind_of_ok _ first]
  simp only [← List.reverse_cons]
  rfl

theorem run_print_of_error (line : Nat) (noLoop : Rendering.NoLoop e)
    (evaluated : ∀ calls, (Rendering.eval calls setting e).run.run (start data hasSignal) =
      (.error fault, next)) :
    run setting [.print line e] data hasSignal =
      ⟨next.steps.reverse, .error fault.toFault⟩ := by
  have first := Rendering.exec_print_of_error
    (Rendering.callsOf setting [.print line e] (Rendering.deepest + 1)) line noLoop
    (evaluated _)
  rw [run, show (⟨[_], 0, [], [], [], []⟩ : Machine) = start data hasSignal from rfl,
    Rendering.execAll, run_bind_of_error _ first]
  rfl

theorem noLoop_call {callee : String} {places : List Argument} (line : Nat)
    (noLoop : callee ≠ "loop") : Rendering.NoLoop (.call line (.var line callee) places) := by
  intro own at_ argument same
  injection same with _ named _
  injection named with _ named
  exact noLoop named

section Callee

variable {callee : String} {arguments : List Labelled} {places : List Argument}
  {values : List Value} {f : Function} {passed : List Json}

/-- No data and no mark of the signal goes by a name. -/
structure Unbound (data : Json) (hasSignal : Bool) (name : String) : Prop where
  noField : data.field? name = none
  noWhole : name ≠ "data"
  noMark : hasSignal = true → name ≠ "abort"

theorem lookup_rootVariables_none (unbound : Unbound data hasSignal callee) :
    (rootVariables data hasSignal).lookup callee = none := by
  have noMark : ¬(hasSignal = true ∧ callee = "abort") := fun both => unbound.noMark both.1 both.2
  rw [lookup_rootVariables_eq, if_neg noMark, Json.binding?, unbound.noField,
    if_neg unbound.noWhole, Option.or_none, Option.map_none]

theorem find?_start_none (unbound : Unbound data hasSignal callee) :
    Rendering.Machine.find? setting callee (start data hasSignal) =
      Rendering.global? setting callee := by
  have inFrame : Rendering.Frame.find? [] callee
      { Rendering.plainFrame with base := .given (rootVariables data hasSignal) } = none := by
    simp only [Rendering.Frame.find?, Rendering.plainFrame, List.lookup_nil, ite_self,
      lookup_rootVariables_none unbound]
  simp only [Rendering.Machine.find?, start, List.findSome?_cons, List.findSome?_nil, inFrame]

theorem find?_start_function (unbound : Unbound data hasSignal callee)
    (registered : setting.functions.get? callee = some f) :
    Rendering.Machine.find? setting callee (start data hasSignal) = some (.function callee) := by
  rw [find?_start_none unbound, Rendering.global?, Registry.contains, registered]
  rfl

/-- A printed call of a name in sight does what a call of its value does. -/
theorem eval_start_call {found : Value} (calls : Calls) (line : Nat)
    (noSuper : callee ≠ "super") (noLoop : callee ≠ "loop") (same : Places arguments places)
    (stand : List.Forall₂ (fun argument =>
      Rendering.Stands setting (start data hasSignal) argument.operand) arguments values)
    (bound : Rendering.Machine.find? setting callee (start data hasSignal) = some found) :
    (Rendering.eval calls setting (.call line (.var line callee) places)).run.run
        (start data hasSignal) =
      (Rendering.callValue calls setting (argumentLinesAfter line places) found values).run.run
        (start data hasSignal) := by
  rw [Rendering.eval_call line line same stand, Rendering.callName_of_some _ noSuper noLoop bound]

/-- A printed call of a function of the registry calls it once. What the function gives is printed,
and its failure is the fault of the run. -/
theorem run_call_function (own line : Nat) (noSuper : callee ≠ "super") (noLoop : callee ≠ "loop")
    (unbound : Unbound data hasSignal callee)
    (registered : setting.functions.get? callee = some f) (same : Places arguments places)
    (stand : List.Forall₂ (fun argument =>
      Rendering.Stands setting (start data hasSignal) argument.operand) arguments values)
    (given : Value.toItems? values = some passed) :
    run setting [.print own (.call line (.var line callee) places)] data hasSignal =
      .ofCall callee passed (fun value => Rendering.shown setting (.ofJson value))
        (fun message => .page ⟨.invalidOperation, some ⟨callee, message⟩,
          some ⟨setting.label, argumentLinesAfter line places⟩⟩)
        (f passed) := by
  have evaluated := fun calls =>
    (eval_start_call calls line noSuper noLoop same stand
      (find?_start_function unbound registered)).trans
      (Rendering.callValue_function _ registered given)
  cases result : f passed with
  | ok value =>
    rw [result] at evaluated
    exact run_print_of_ok own (noLoop_call line noLoop) evaluated rfl (Value.isMissing_ofJson value)
  | error message =>
    rw [result] at evaluated
    exact run_print_of_error own (noLoop_call line noLoop) evaluated

/-- A value of the data cannot be called, whether the registry has a function of its name or not. -/
theorem run_call_value {found : Json} (own line : Nat) (noSuper : callee ≠ "super")
    (noLoop : callee ≠ "loop")
    (inSight : Rendering.Machine.find? setting callee (start data hasSignal) = some (.ofJson found))
    (same : Places arguments places)
    (stand : List.Forall₂ (fun argument =>
      Rendering.Stands setting (start data hasSignal) argument.operand) arguments values) :
    run setting [.print own (.call line (.var line callee) places)] data hasSignal =
      ⟨[], .error (.execute (.page ⟨.invalidOperation, none,
        some ⟨setting.label, argumentLinesAfter line places⟩⟩))⟩ :=
  run_print_of_error own (noLoop_call line noLoop) fun calls =>
    (eval_start_call calls line noSuper noLoop same stand inSight).trans
      (Rendering.callValue_ofJson _)

theorem run_call_unknown (own line : Nat) (noSuper : callee ≠ "super") (noLoop : callee ≠ "loop")
    (unbound : Unbound data hasSignal callee) (unknown : setting.functions.get? callee = none)
    (foreign : builtin? callee = none) (same : Places arguments places)
    (stand : List.Forall₂ (fun argument =>
      Rendering.Stands setting (start data hasSignal) argument.operand) arguments values) :
    run setting [.print own (.call line (.var line callee) places)] data hasSignal =
      ⟨[], .error (.execute (.page ⟨.unknownFunction, none,
        some ⟨setting.label, argumentLinesAfter line places⟩⟩))⟩ := by
  have missing : Rendering.Machine.find? setting callee (start data hasSignal) = none := by
    rw [find?_start_none unbound, Rendering.global?, Registry.contains, unknown, foreign]
    rfl
  exact run_print_of_error own (noLoop_call line noLoop) fun calls =>
    (Rendering.eval_call line line same stand).trans
      (Rendering.callName_of_none _ noSuper noLoop missing)

/-- Where there is a signal, a printed call of `abort` marks it, whatever the data and the registry
have under the name, and prints nothing. -/
theorem run_call_abort {reason? : Option String} (own line : Nat) (same : Places arguments places)
    (stand : List.Forall₂ (fun argument =>
      Rendering.Stands setting (start data true) argument.operand) arguments
        (reason?.map Value.text).toList) :
    run setting [.print own (.call line (.var line "abort") places)] data true =
      ⟨[.abort (reason?.getD Signal.defaultReason), .write []], .ok ()⟩ := by
  have inSight : Rendering.Machine.find? setting "abort" (start data true) = some .abort :=
    find?_start rfl
  have silent : Rendering.shown setting (.text "") = "" := by
    unfold Rendering.shown
    split <;> decide
  rw [run_print_of_ok own (noLoop_call line (by decide)) (fun calls =>
    (eval_start_call calls line (by decide) (by decide) same stand inSight).trans
      (Rendering.callValue_abort _ rfl)) rfl rfl, silent]
  rfl

end Callee

end Run

end Page

end Templating
