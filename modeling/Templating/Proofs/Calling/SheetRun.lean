import Mathlib.Data.List.Forall2
import Templating.Proofs.Calling.SheetTree
import Templating.Proofs.Printing.SheetPrint

/-! Running a printed call on a sheet: the operands are looked up in the order of their labels, and the
function gets one object with their values under the labels. -/

namespace Templating

namespace Assoc

theorem mem_ofList {α : Type} {pairs : List (String × α)} {entry : String × α}
    (h : entry ∈ ofList pairs) : entry ∈ pairs := by
  suffices ∀ entries, entry ∈ insertAll pairs entries → entry ∈ entries ∨ entry ∈ pairs by
    simpa using this [] h
  clear h
  induction pairs with
  | nil => exact fun entries h => .inl h
  | cons pair rest ih =>
    intro entries h
    rcases ih _ h with before | later
    · rcases mem_insert before with rfl | before
      · exact .inr List.mem_cons_self
      · exact .inl before
    · exact .inr (List.mem_cons_of_mem _ later)

end Assoc

namespace Sheet

namespace Rendering

section Call

variable {setting : Setting} {state : State} {value : Labelled → Json} {callee : String}
  {arguments : List Labelled} {f : Function}

/-- What an operand stands for in a scope. -/
def Stands (scope : Scope) : Operand → Json → Prop
  | .var name, value => scope.value? (.mk name []) = some value
  | .text text, value => value = .str text

theorem value_operand {operand : Operand} {value : Json} (stands : Stands state.scope operand value) :
    ((operandExpr operand).meaning setting).value.run.run state = (.ok value, state) := by
  cases operand with
  | var name => exact value_name stands
  | text text =>
    obtain rfl : value = .str text := stands
    rfl

theorem argumentMeanings_eq_map (arguments : List (String × Expr)) :
    argumentMeanings setting arguments =
      arguments.map fun argument => (argument.1, (argument.2.meaning setting).value) := by
  induction arguments with
  | nil => rfl
  | cons argument rest ih => rw [argumentMeanings, List.map_cons, ih]

theorem evaluate_operands (entries : List (String × Labelled))
    (stand : ∀ entry ∈ entries, Stands state.scope entry.2.operand (value entry.2)) :
    (evaluate (entries.map fun entry =>
        (entry.1, ((operandExpr entry.2.operand).meaning setting).value))).run.run state =
      (.ok (entries.map fun entry => (entry.1, value entry.2)), state) := by
  induction entries with
  | nil => rfl
  | cons entry rest ih =>
    have here : ((operandExpr entry.2.operand).meaning setting).value.run.run state =
        (.ok (value entry.2), state) :=
      value_operand (stand entry List.mem_cons_self)
    have others := ih fun other inRest => stand other (List.mem_cons_of_mem _ inRest)
    rw [List.map_cons, evaluate, run_bind_of_ok _ here, run_bind_of_ok _ others]
    rfl

/-- The arguments of a call are what its operands stand for, under their labels. By way of the
arguments under their labels, of which both are images. -/
theorem evaluate_arguments
    (stand : ∀ argument ∈ arguments, Stands state.scope argument.operand (value argument)) :
    (evaluate (argumentMeanings setting (Assoc.ofList (arguments.map Nested.pair)))).run.run state =
      (.ok (Assoc.ofList (arguments.map fun argument => (argument.label, value argument))),
        state) := by
  let entries := Assoc.ofList (arguments.map fun argument => (argument.label, argument))
  have written : Assoc.ofList (arguments.map Nested.pair) =
      entries.map fun entry => (entry.1, operandExpr entry.2.operand) := by
    refine Eq.trans ?_ (Assoc.map_ofList (fun argument : Labelled => operandExpr argument.operand) _).symm
    rw [List.map_map]
    rfl
  have given : Assoc.ofList (arguments.map fun argument => (argument.label, value argument)) =
      entries.map fun entry => (entry.1, value entry.2) := by
    refine Eq.trans ?_ (Assoc.map_ofList value _).symm
    rw [List.map_map]
    rfl
  have allStand : ∀ entry ∈ entries, Stands state.scope entry.2.operand (value entry.2) := by
    intro entry inEntries
    obtain ⟨argument, inArguments, rfl⟩ := List.mem_map.mp (Assoc.mem_ofList inEntries)
    exact stand argument inArguments
  rw [argumentMeanings_eq_map, written, given, List.map_map]
  exact evaluate_operands entries allStand

theorem value_call {callee : String} {arguments : List Labelled} {result : Except Failure Json}
    {next : State}
    (called : (callFunction setting callee (argumentMeanings setting
      (Assoc.ofList (arguments.map Nested.pair)))).run.run state = (result, next)) :
    ((Nested.callExpr callee arguments).meaning setting).value.run.run state = (result, next) := by
  have meaning : ((Nested.callExpr callee arguments).meaning setting).value =
      (callFunction setting callee (argumentMeanings setting
        (Assoc.ofList (arguments.map Nested.pair))) >>= Meaning.finish false []) := rfl
  rw [meaning]
  cases result with
  | ok value =>
    rw [run_bind_of_ok _ called]
    rfl
  | error failure => exact run_bind_of_error _ called

/-- A function of the registry is called once, with one object. -/
theorem value_call_function (noMark : (setting.hasSignal && callee == "abort") = false)
    (registered : setting.functions.get? callee = some f)
    (stand : ∀ argument ∈ arguments, Stands state.scope argument.operand (value argument)) :
    let passed := [Json.ofFields (arguments.map fun argument => (argument.label, value argument))]
    ((Nested.callExpr callee arguments).meaning setting).value.run.run state =
      (match f passed with
        | .ok value => .ok value
        | .error message => .error ⟨some ⟨callee, message⟩⟩,
        { state with steps := .call callee passed :: state.steps }) := by
  refine value_call ?_
  have found : (need (setting.functions.get? callee)).run.run state = (.ok f, state) := by
    rw [registered]
    rfl
  rw [callFunction, if_neg (by rw [noMark]; exact Bool.false_ne_true), run_bind_of_ok _ found,
    run_bind_of_ok _ (evaluate_arguments stand)]
  dsimp only [Json.ofFields]
  cases f _ <;> rfl

/-- A name that is neither the mark of a signal nor a function is a failure before its arguments. -/
theorem value_call_unknown (noMark : (setting.hasSignal && callee == "abort") = false)
    (unknown : setting.functions.get? callee = none) :
    ((Nested.callExpr callee arguments).meaning setting).value.run.run state =
      (.error ⟨none⟩, state) := by
  refine value_call ?_
  have missing : (need (setting.functions.get? callee)).run.run state = (.error ⟨none⟩, state) := by
    rw [unknown]
    rfl
  rw [callFunction, if_neg (by rw [noMark]; exact Bool.false_ne_true), run_bind_of_error _ missing]

/-- Where there is a signal, `abort` marks it, whatever the registry has under the name. -/
theorem value_call_abort (marks : setting.hasSignal = true)
    (stand : ∀ argument ∈ arguments, Stands state.scope argument.operand (value argument)) :
    ((Nested.callExpr "abort" arguments).meaning setting).value.run.run state =
      (.ok (.str ""), { state with
        steps := .abort (reasonOf (Assoc.ofList
          (arguments.map fun argument => (argument.label, value argument)))) :: state.steps }) := by
  refine value_call ?_
  have here : (setting.hasSignal && "abort" == "abort") = true := by rw [marks]; rfl
  rw [callFunction, if_pos here, run_bind_of_ok _ (evaluate_arguments stand)]
  rfl

end Call

end Rendering

section Run

variable {functions : Registry} {data : Json} {hasSignal : Bool} {e : Expr} {value : Json}
  {next : State} {failure : Failure}

/-- The state with which a sheet starts. -/
def start (data : Json) : State := ⟨Scope.start data, []⟩

theorem run_print_of_ok (label : String)
    (evaluated : (e.meaning ⟨functions, hasSignal⟩).value.run.run (start data) =
      (.ok value, next)) :
    run label functions [.print e] data hasSignal =
      ⟨next.steps.reverse ++ [.write (Utf8.encode (display value))], .ok ()⟩ := by
  have first := Rendering.exec_print_of_ok evaluated
  rw [run, show (⟨Scope.start data, []⟩ : State) = start data from rfl, Rendering.execAll,
    run_bind_of_ok _ first]
  simp only [← List.reverse_cons]
  rfl

theorem run_print_of_error (label : String)
    (evaluated : (e.meaning ⟨functions, hasSignal⟩).value.run.run (start data) =
      (.error failure, next)) :
    run label functions [.print e] data hasSignal =
      ⟨next.steps.reverse, .error (.execute (.sheet label failure.function?))⟩ := by
  have first : (Rendering.exec ⟨functions, hasSignal⟩ (.print e)).run.run (start data) =
      (.error failure, next) := by
    rw [Rendering.exec]
    exact run_bind_of_error _ evaluated
  rw [run, show (⟨Scope.start data, []⟩ : State) = start data from rfl, Rendering.execAll,
    run_bind_of_error _ first]
  rfl

section Callee

variable {callee : String} {arguments : List Labelled} {value : Labelled → Json} {f : Function}

/-- A printed call of a function of the registry calls it once, with an object. What the function
gives is printed, and its failure is the fault of the run. -/
theorem run_call_function (label : String) (noMark : (hasSignal && callee == "abort") = false)
    (registered : functions.get? callee = some f)
    (stand : ∀ argument ∈ arguments,
      Rendering.Stands (Scope.start data) argument.operand (value argument)) :
    run label functions [.print (Nested.callExpr callee arguments)] data hasSignal =
      .ofCall callee
        [Json.ofFields (arguments.map fun argument => (argument.label, value argument))] display
        (fun message => .sheet label (some ⟨callee, message⟩))
        (f [Json.ofFields (arguments.map fun argument => (argument.label, value argument))]) := by
  have evaluated := @Rendering.value_call_function ⟨functions, hasSignal⟩ (start data) value callee
    arguments f noMark registered stand
  dsimp only at evaluated
  cases result : f [Json.ofFields (arguments.map fun argument => (argument.label, value argument))]
    with
  | ok value =>
    rw [result] at evaluated
    exact run_print_of_ok label evaluated
  | error message =>
    rw [result] at evaluated
    exact run_print_of_error label evaluated

theorem run_call_unknown (label : String) (noMark : (hasSignal && callee == "abort") = false)
    (unknown : functions.get? callee = none) :
    run label functions [.print (Nested.callExpr callee arguments)] data hasSignal =
      ⟨[], .error (.execute (.sheet label none))⟩ :=
  run_print_of_error label (Rendering.value_call_unknown noMark unknown)

/-- Where there is a signal, a printed call of `abort` marks it, whatever the registry has under the
name, and prints nothing. -/
theorem run_call_abort (label : String)
    (stand : ∀ argument ∈ arguments,
      Rendering.Stands (Scope.start data) argument.operand (value argument)) :
    run label functions [.print (Nested.callExpr "abort" arguments)] data true =
      ⟨[.abort (reasonOf (Assoc.ofList
        (arguments.map fun argument => (argument.label, value argument)))), .write []], .ok ()⟩ :=
  run_print_of_ok label (Rendering.value_call_abort rfl stand)

end Callee

end Run

end Sheet

end Templating
