import Templating.Proofs.Phase.Keeping
import Templating.Proofs.Phase.Writes

/-! What a sheet writes: whatever an expression or a statement of the sheet means, its steps write
texts. By induction on the trees, with one rule for each way in which computations are put together. -/

namespace Templating.Sheet

namespace Rendering

/-- A computation that writes only texts. -/
abbrev Writes {α : Type} (part : Rendering α) : Prop :=
  Keeps (fun state : State => Texts state.steps) (fun _ => True) part

section Parts

variable {α : Type} {part : Rendering α}

theorem writes_fail : Writes (fail : Rendering α) := Keeps.throw trivial

theorem writes_need (value? : Option α) : Writes (need value?) := by
  cases value? with
  | some value => exact Keeps.pure value
  | none => exact writes_fail

theorem writes_step {event : Event} (h : event.IsText) : Writes (step event) :=
  Keeps.modify fun _ texts => texts.cons h

theorem writes_write (text : String) : Writes (write text) := writes_step ⟨text, rfl⟩

theorem writes_abort (reason : String) : Writes (step (.abort reason)) := writes_step trivial

theorem writes_call (name : String) (arguments : List Json) : Writes (step (.call name arguments)) :=
  writes_step trivial

theorem writes_lookup? (path : Path) : Writes (lookup? path) :=
  Keeps.get_bind fun _ _ => Keeps.pure _

theorem writes_inScope (change : Scope → Scope) : Writes (inScope change) :=
  Keeps.modify fun _ texts => texts

theorem Writes.orElse (h : Writes part) (value : α) : Writes (orElse part value) :=
  Keeps.tryCatch h fun _ => Keeps.pure value

theorem Writes.withoutFunction (h : Writes part) : Writes (withoutFunction part) :=
  Keeps.tryCatch h fun _ => writes_fail

theorem writes_evaluate {entries : List (String × Rendering Json)}
    (h : ∀ entry ∈ entries, Writes entry.2) : Writes (evaluate entries) := by
  induction entries with
  | nil => exact Keeps.pure _
  | cons entry rest ih =>
    obtain ⟨first, others⟩ := List.forall_mem_cons.mp h
    exact first.bind fun _ => (ih others).bind fun _ => Keeps.pure _

theorem writes_evaluateAll {parts : List (Rendering Json)} (h : ∀ part ∈ parts, Writes part) :
    Writes (evaluateAll parts) := by
  induction parts with
  | nil => exact Keeps.pure _
  | cons part rest ih =>
    obtain ⟨first, others⟩ := List.forall_mem_cons.mp h
    exact first.bind fun _ => (ih others).bind fun _ => Keeps.pure _

theorem writes_joinTexts {parts : List (Rendering String)} (h : ∀ part ∈ parts, Writes part) :
    Writes (joinTexts parts) := by
  induction parts with
  | nil => exact Keeps.pure _
  | cons part rest ih =>
    obtain ⟨first, others⟩ := List.forall_mem_cons.mp h
    exact first.bind fun _ => (ih others).bind fun _ => Keeps.pure _

end Parts

end Rendering

open Rendering

section Filters

variable {filters : List (String × List (String × Rendering Json))}

/-- The arguments of filters write only texts. -/
abbrev FiltersWrite (filters : List (String × List (String × Rendering Json))) : Prop :=
  ∀ filter ∈ filters, ∀ argument ∈ filter.2, Writes argument.2

theorem writes_callFunction (setting : Setting) (name : String)
    {arguments : List (String × Rendering Json)} (h : ∀ argument ∈ arguments, Writes argument.2) :
    Writes (callFunction setting name arguments) := by
  unfold callFunction
  split
  · exact (writes_evaluate h).bind fun _ => (writes_abort _).bind fun _ => Keeps.pure _
  · refine (writes_need _).bind fun f => (writes_evaluate h).bind fun values => ?_
    refine (writes_call name _).bind fun _ => ?_
    cases f [.obj values] with
    | ok value => exact Keeps.pure value
    | error message => exact Keeps.throw trivial

theorem writes_applyFilters (h : FiltersWrite filters) (value : Json) :
    Writes (applyFilters filters value) := by
  induction filters generalizing value with
  | nil => exact Keeps.pure value
  | cons filter rest ih =>
    obtain ⟨first, others⟩ := List.forall_mem_cons.mp h
    obtain ⟨name, arguments⟩ := filter
    rw [applyFilters]
    split
    · exact ih others value
    · exact (writes_need _).bind fun _ => (writes_evaluate first).bind fun _ =>
        (writes_need _).bind fun result => ih others result

theorem writes_defaultValue (h : FiltersWrite filters) : Writes (defaultValue filters) := by
  unfold defaultValue
  split
  · next arguments rest =>
    split
    · next part found =>
      obtain ⟨first, -⟩ := List.forall_mem_cons.mp h
      obtain ⟨before, after, same, -⟩ := List.lookup_eq_some_iff.mp found
      exact first ("value", part) (same ▸ List.mem_append_right before List.mem_cons_self)
    · exact writes_fail
  · exact writes_fail

end Filters

/-- An expression that writes only texts, whatever is asked of it. -/
structure Meaning.Writes (meaning : Meaning) : Prop where
  value : Rendering.Writes meaning.value
  truth : Rendering.Writes meaning.truth
  number : Rendering.Writes meaning.number

namespace Meaning

variable {filters : List (String × List (String × Rendering Json))} {value : Rendering Json}
  {truth : Rendering Bool} {number : Rendering (Option Quantity)} {left right meaning : Meaning}

theorem writes_ofTruth (negated : Bool) (h : Rendering.Writes value)
    (condition : Rendering.Writes truth) : (ofTruth negated value truth).Writes :=
  ⟨h, condition.map _, writes_fail⟩

theorem writes_ofCondition (h : Rendering.Writes truth) : (ofCondition truth).Writes :=
  ⟨h.map _, h, writes_fail⟩

theorem writes_ofQuantity (negated : Bool) (q : Quantity) : (ofQuantity negated q).Writes :=
  ⟨Keeps.pure _, Keeps.pure _, Keeps.pure _⟩

theorem writes_numberOf (h : Rendering.Writes value) : Rendering.Writes (numberOf value) :=
  h.bind fun _ => (writes_need _).bind fun _ => Keeps.pure _

theorem writes_ofCall (negated : Bool) (h : Rendering.Writes value) :
    (ofCall negated value).Writes := by
  refine ⟨h, h.bind fun result => ?_, writes_numberOf h⟩
  cases result with
  | bool b => exact Keeps.pure _
  | _ => exact writes_fail

theorem writes_ofMath (negated : Bool) (op : MathOp) (h : left.Writes) (other : right.Writes) :
    (ofMath negated op left right).Writes := by
  have number : Rendering.Writes (ofMath negated op left right).number := by
    refine h.number.bind fun x? => other.number.bind fun y? => ?_
    cases x? with
    | none => exact Keeps.pure _
    | some x =>
      cases y? with
      | none => exact Keeps.pure _
      | some y => exact writes_need _
  refine ⟨number.withoutFunction.bind fun q? => ?_, number.bind fun q? => ?_, number⟩
  · cases q? <;> exact Keeps.pure _
  · cases q? <;> exact Keeps.pure _

theorem writes_compareNumbers (allowed : List Ordering) (h : left.Writes) (other : right.Writes) :
    Rendering.Writes (compareNumbers allowed left right) := by
  refine h.number.bind fun x? => other.number.bind fun y? => ?_
  cases x? with
  | none => exact writes_fail
  | some x =>
    cases y? with
    | none => exact writes_fail
    | some y => exact Keeps.pure _

theorem writes_equality (negated opposite : Bool) (h : left.Writes) (other : right.Writes) :
    Rendering.Writes (equality negated opposite left right) :=
  h.value.bind fun _ => other.value.bind fun _ => Keeps.pure _

theorem writes_comparison (negated : Bool) (op : Comparison) (h : left.Writes)
    (other : right.Writes) : Rendering.Writes (comparison negated op left right) := by
  cases op with
  | eq => exact writes_equality negated false h other
  | ne => exact writes_equality negated true h other
  | _ => exact (writes_compareNumbers _ h other).map _

theorem writes_connection (op : Connective) (h : left.Writes) (other : right.Writes) :
    Rendering.Writes (connection op left right) := by
  cases op with
  | and =>
    refine h.truth.bind fun holds => ?_
    split
    · exact other.truth
    · exact Keeps.pure _
  | or =>
    refine h.truth.bind fun holds => ?_
    split
    · exact Keeps.pure _
    · exact other.truth

theorem writes_partText (value : Json) : Rendering.Writes (partText value) := by
  cases value with
  | str text => exact Keeps.pure _
  | int n => exact Keeps.pure _
  | float x => exact Keeps.pure _
  | _ => exact writes_fail

theorem writes_testTruth (subject : Path) (name : String) {arguments : List (Rendering Json)}
    (h : ∀ argument ∈ arguments, Rendering.Writes argument) :
    Rendering.Writes (testTruth subject name arguments) := by
  refine (writes_need _).bind fun test => (writes_evaluateAll h).bind fun values => ?_
  split
  · exact (writes_lookup? subject).bind fun found => writes_need _
  · exact writes_fail

theorem writes_finish (negated : Bool) (h : FiltersWrite filters) (value : Json) :
    Rendering.Writes (finish negated filters value) :=
  (writes_applyFilters h value).bind fun _ => Keeps.pure _

theorem writes_variableValue (negated : Bool) (h : FiltersWrite filters) (path : Path) :
    Rendering.Writes (variableValue negated filters path) := by
  have default_ := writes_defaultValue h
  refine (writes_lookup? path).bind fun found => ?_
  split
  · split
    · exact Keeps.pure _
    · split
      · exact default_.bind fun value => writes_finish negated h value
      · exact (Keeps.pure _).bind fun value => writes_finish negated h value
  · next value _ => exact writes_finish negated h value
  · split
    · exact default_.bind fun value => writes_finish negated h value
    · split
      · exact Keeps.pure _
      · exact writes_fail

theorem writes_filteredNumber (h : Rendering.Writes value) (other : Rendering.Writes number) :
    Rendering.Writes (filteredNumber filters value number) := by
  unfold filteredNumber
  split
  · exact other
  · exact writes_numberOf h

theorem writes_ofVariable (negated : Bool) (h : FiltersWrite filters) (path : Path) :
    (ofVariable negated filters path).Writes where
  value := writes_variableValue negated h path
  truth := ((writes_variableValue negated h path).orElse _).map _
  number := writes_filteredNumber (writes_variableValue negated h path)
    (writes_numberOf ((writes_lookup? path).bind fun _ => writes_need _))

theorem writes_ofConcat (negated : Bool) (h : FiltersWrite filters)
    {parts : List (Rendering String)} (texts : ∀ part ∈ parts, Rendering.Writes part) :
    (ofConcat negated filters parts).Writes := by
  have value : Rendering.Writes (ofConcat negated filters parts).value :=
    (writes_joinTexts texts).bind fun text => writes_finish negated h (.str text)
  exact ⟨value, value.map _, writes_filteredNumber value writes_fail⟩

theorem writes_filteredBy (negated : Bool) (h : FiltersWrite filters) (own : meaning.Writes) :
    (filteredBy negated filters meaning).Writes := by
  have value : Rendering.Writes (filteredBy negated filters meaning).value :=
    own.value.bind fun value => writes_finish negated h value
  exact ⟨value, own.truth, writes_filteredNumber value own.number⟩

end Meaning

/-! ### Over the trees -/

mutual

theorem Expr.writes (setting : Setting) (e : Expr) : (e.meaning setting).Writes := by
  match e with
  | .mk negated term filters =>
    have filtered := filterMeanings_writes setting filters
    cases term with
    | var path => exact Meaning.writes_ofVariable negated filtered path
    | concat parts =>
      exact Meaning.writes_ofConcat negated filtered (partMeanings_writes setting parts)
    | _ => exact Meaning.writes_filteredBy negated filtered (Term.writes setting negated _)
termination_by structural e

theorem Term.writes (setting : Setting) (negated : Bool) (term : Term) :
    (term.meaning setting negated).Writes := by
  match term with
  | .text text => exact Meaning.writes_ofTruth negated (Keeps.pure _) (Keeps.pure _)
  | .int n => exact Meaning.writes_ofQuantity negated _
  | .float x => exact Meaning.writes_ofQuantity negated _
  | .bool b => exact Meaning.writes_ofTruth negated (Keeps.pure _) (Keeps.pure _)
  | .var path => exact Meaning.writes_ofVariable negated (List.forall_mem_nil _) path
  | .list items =>
    have values := writes_evaluateAll (itemMeanings_writes setting items)
    exact Meaning.writes_ofTruth negated (values.bind fun _ => Keeps.pure _) writes_fail
  | .call call => exact Meaning.writes_ofCall negated (Call.writes setting call)
  | .test opposite subject name arguments =>
    have truth := (Meaning.writes_testTruth subject name
      (itemMeanings_writes setting arguments)).map (· != opposite)
    exact Meaning.writes_ofTruth negated (truth.map _) truth
  | .concat parts =>
    exact Meaning.writes_ofConcat negated (List.forall_mem_nil _) (partMeanings_writes setting parts)
  | .math op left right =>
    exact Meaning.writes_ofMath negated op (Expr.writes setting left) (Expr.writes setting right)
  | .compare op left right =>
    exact Meaning.writes_ofCondition
      (Meaning.writes_comparison negated op (Expr.writes setting left) (Expr.writes setting right))
  | .connect op left right =>
    exact Meaning.writes_ofCondition
      ((Meaning.writes_connection op (Expr.writes setting left) (Expr.writes setting right)).map _)
  | .member opposite item container =>
    have truth := (Expr.writes setting item).value.bind fun itemValue =>
      (Expr.writes setting container).value.bind fun containerValue =>
        (writes_need (Meaning.contains? containerValue itemValue)).bind fun inside =>
          Keeps.pure (inside != opposite)
    exact Meaning.writes_ofTruth negated (truth.map _) truth
termination_by structural term

theorem Call.writes (setting : Setting) (call : Call) : Rendering.Writes (call.meaning setting) := by
  match call with
  | .mk name arguments =>
    exact writes_callFunction setting name (argumentMeanings_writes setting arguments)
termination_by structural call

theorem argumentMeanings_writes (setting : Setting) (arguments : List (String × Expr)) :
    ∀ argument ∈ argumentMeanings setting arguments, Rendering.Writes argument.2 := by
  match arguments with
  | [] => exact List.forall_mem_nil _
  | (name, value) :: rest =>
    exact List.forall_mem_cons.mpr
      ⟨(Expr.writes setting value).value, argumentMeanings_writes setting rest⟩
termination_by structural arguments

theorem itemMeanings_writes (setting : Setting) (items : List Expr) :
    ∀ part ∈ itemMeanings setting items, Rendering.Writes part := by
  match items with
  | [] => exact List.forall_mem_nil _
  | item :: rest =>
    exact List.forall_mem_cons.mpr
      ⟨(Expr.writes setting item).value, itemMeanings_writes setting rest⟩
termination_by structural items

theorem filterMeanings_writes (setting : Setting) (filters : List Call) :
    FiltersWrite (filterMeanings setting filters) := by
  match filters with
  | [] => exact List.forall_mem_nil _
  | .mk name arguments :: rest =>
    exact List.forall_mem_cons.mpr
      ⟨argumentMeanings_writes setting arguments, filterMeanings_writes setting rest⟩
termination_by structural filters

theorem partMeanings_writes (setting : Setting) (parts : List Term) :
    ∀ part ∈ partMeanings setting parts, Rendering.Writes part := by
  match parts with
  | [] => exact List.forall_mem_nil _
  | part :: rest =>
    have others := partMeanings_writes setting rest
    have text := (Term.writes setting false part).value.bind Meaning.writes_partText
    cases part with
    | float x => exact List.forall_mem_cons.mpr ⟨Keeps.pure _, others⟩
    | _ => exact List.forall_mem_cons.mpr ⟨text, others⟩
termination_by structural parts

end

namespace Rendering

theorem writes_runRounds {body : Rendering Unit}
    {frame : Nat → Option String × Option Json → Frame} (h : Writes body)
    (rounds : List (Option String × Option Json)) (index : Nat) :
    Writes (runRounds body frame index rounds) := by
  induction rounds generalizing index with
  | nil => exact Keeps.pure _
  | cons item rest ih =>
    exact (writes_inScope _).bind fun _ => h.bind fun _ => (writes_inScope _).bind fun _ =>
      ih (index + 1)

mutual

theorem writes_exec (setting : Setting) (statement : Stmt) : Writes (exec setting statement) := by
  match statement with
  | .text text => exact writes_write text
  | .print value => exact (Expr.writes setting value).value.bind fun shown => writes_write _
  | .assign name value => exact (Expr.writes setting value).value.bind fun _ => writes_inScope _
  | .branch arms otherwise =>
    refine (writes_execArms setting arms).bind fun done => ?_
    split
    · exact Keeps.pure _
    · exact writes_execAll setting otherwise
  | .loop key? name items body otherwise =>
    have rounds : Writes (do
        let rounds ← need (rounds? key?.isSome (← (items.meaning setting).value))
        if rounds.isEmpty then execAll setting otherwise
        else runRounds (execAll setting body) (roundFrame key? name rounds.length) 0 rounds) := by
      refine (Expr.writes setting items).value.bind fun subject => (writes_need _).bind fun all => ?_
      split
      · exact writes_execAll setting otherwise
      · exact writes_runRounds (writes_execAll setting body) all 0
    rw [exec]
    split
    · exact writes_fail.bind fun _ => rounds
    · exact rounds
termination_by structural statement

theorem writes_execAll (setting : Setting) (statements : List Stmt) :
    Writes (execAll setting statements) := by
  match statements with
  | [] => exact Keeps.pure _
  | statement :: rest =>
    exact (writes_exec setting statement).bind fun _ => writes_execAll setting rest
termination_by structural statements

theorem writes_execArms (setting : Setting) (arms : List (Expr × List Stmt)) :
    Writes (execArms setting arms) := by
  match arms with
  | [] => exact Keeps.pure _
  | (condition, body) :: rest =>
    refine (Expr.writes setting condition).truth.bind fun holds => ?_
    split
    · exact (writes_execAll setting body).bind fun _ => Keeps.pure _
    · exact writes_execArms setting rest
termination_by structural arms

end

end Rendering

/-- A run of a sheet writes texts, and if it fails it fails in execution. -/
theorem sound_run (label : String) (functions : Registry) (sheet : List Stmt) (data : Json)
    (hasSignal : Bool) :
    Texts (run label functions sheet data hasSignal).events ∧
      FaultsIn Fault.OfExecution (run label functions sheet data hasSignal).outcome := by
  obtain ⟨texts, blamed⟩ := writes_execAll ⟨functions, hasSignal⟩ sheet ⟨Scope.start data, []⟩ Texts.nil
  constructor
  · intro event inRun
    exact texts event (List.mem_reverse.mp inRun)
  · exact blamed.mapError fun failure _ => ⟨.sheet label failure.function?, rfl⟩

end Templating.Sheet
