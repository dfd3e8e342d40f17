import Templating.Page.Render
import Templating.Proofs.Phase.Keeping
import Templating.Proofs.Render.Faults

/-! Operations on the values of a page, and what goes wrong in them: never a problem of syntax, nor of
the writer. One lemma for each operation that can go wrong, from what it asks of its arguments to the
filters and the functions of the language. -/

namespace Templating.Page

/-- An outcome that is no failure but of an execution. -/
abbrev OfRender {α : Type} (outcome : Outcome α) : Prop :=
  FaultsIn (fun trouble : Trouble => trouble.kind.isExecution = true) outcome

section Outcome

variable {α β : Type}

theorem ofRender_invalid : OfRender (.error .invalid : Outcome α) := .error rfl

theorem ofRender_undefined : OfRender (.error .undefined : Outcome α) := .error rfl

theorem ofRender_tooMany : OfRender (.error .tooMany : Outcome α) := .error rfl

theorem ofRender_tooFew : OfRender (.error .tooFew : Outcome α) := .error rfl

end Outcome

namespace Value

variable {α : Type}

theorem ofRender_orInvalid (result : Option α) : OfRender (orInvalid result) := by
  cases result with
  | some value => exact .ok value
  | none => exact ofRender_invalid

theorem ofRender_toText (value : Value) : OfRender value.toText := by
  unfold toText
  split
  · exact ofRender_undefined
  · split
    · exact ofRender_invalid
    · exact .ok _

theorem ofRender_toText? (value : Value) : OfRender value.toText? := by
  unfold toText?
  split
  · exact .ok _
  · exact .ok _
  · exact (ofRender_toText _).map some

theorem ofRender_toBool? (value : Value) : OfRender value.toBool? := by
  unfold toBool?
  split
  · exact .ok _
  · exact .ok _
  · exact .ok _
  · exact ofRender_invalid

theorem ofRender_toInt64 (value : Value) : OfRender value.toInt64 := by
  unfold toInt64
  split
  · exact ofRender_undefined
  · exact ofRender_orInvalid _

theorem ofRender_toOptionalInt64 (value : Value) : OfRender value.toOptionalInt64 := by
  unfold toOptionalInt64
  split
  · exact .ok _
  · exact .ok _
  · exact (ofRender_toInt64 _).map some

theorem ofRender_truth (value : Value) : OfRender value.truth := by
  unfold truth
  split
  · exact ofRender_undefined
  · exact .ok _

theorem ofRender_toItems (value : Value) : OfRender value.toItems := by
  unfold toItems
  split
  · exact ofRender_undefined
  · exact ofRender_orInvalid _

theorem ofRender_noArguments (arguments : List Value) : OfRender (noArguments arguments) := by
  cases arguments with
  | nil => exact .ok ()
  | cons argument rest => exact ofRender_tooMany

theorem ofRender_oneArgument? (arguments : List Value) : OfRender (oneArgument? arguments) := by
  unfold oneArgument?
  split
  · exact .ok _
  · exact .ok _
  · exact ofRender_tooMany

end Value

open Value

/-! ### Filters -/

/-- A filter without problems of syntax. -/
abbrev Filter.OfRender (filter : Filter) : Prop :=
  ∀ value arguments, Page.OfRender (filter value arguments)

theorem ofRender_keywordsOnly (names : List String) (arguments : List Value) :
    OfRender (keywordsOnly names arguments) := by
  unfold keywordsOnly
  split
  · exact .ok _
  · split
    · exact .ok _
    · exact ofRender_tooMany
  · exact ofRender_tooMany

theorem ofRender_sortItems : Filter.OfRender sortItems := by
  intro value arguments
  unfold sortItems
  extract_lets goOn
  have sorted : ∀ items, OfRender (goOn items) := fun _ =>
    (ofRender_keywordsOnly _ _).bind fun _ => (ofRender_toBool? _).bind fun _ =>
      (ofRender_toText? _).bind fun _ => (ofRender_toBool? _).bind fun _ => .ok _
  split
  · exact sorted _
  · exact ofRender_invalid.bind sorted

theorem ofRender_choices (value : Value) : OfRender (choices value) := by
  unfold choices
  split
  · exact .ok _
  · exact ofRender_invalid

theorem ofRender_total (items : List Value) : OfRender (total items) := by
  refine .foldlM items _ fun sum item => ?_
  split
  · exact .ok _
  · split
    · exact ofRender_orInvalid _
    · exact ofRender_invalid

theorem ofRender_reversed (value : Value) : OfRender (reversed value) := by
  unfold reversed
  split
  · exact .ok _
  · exact .ok _
  · exact .ok _
  · exact (ofRender_orInvalid _).map _

theorem ofRender_first (value : Value) : OfRender (first value) := by
  unfold first
  split
  · exact .ok _
  · exact ofRender_invalid
  · exact ofRender_invalid
  · exact (ofRender_orInvalid _).map _

theorem ofRender_last (value : Value) : OfRender (last value) := by
  unfold last
  split
  · exact .ok _
  · exact .ok _
  · exact ofRender_invalid

theorem ofRender_absolute (value : Value) : OfRender (absolute value) := by
  unfold absolute
  split
  · exact ofRender_orInvalid _
  · exact .ok _
  · exact ofRender_invalid

theorem ofRender_pairs (value : Value) : OfRender (pairs value) := by
  unfold pairs
  split
  · exact .ok _
  · exact ofRender_invalid

theorem ofRender_onText (f : String → String) : Filter.OfRender (onText f) := fun _ _ =>
  (ofRender_toText _).bind fun _ => (ofRender_noArguments _).bind fun _ => .ok _

theorem ofRender_onSafeText (f : String → String) : Filter.OfRender (onSafeText f) := fun _ _ =>
  (ofRender_toText _).bind fun _ => (ofRender_noArguments _).bind fun _ => .ok _

theorem ofRender_onValue {f : Value → Outcome Value} (h : ∀ value, OfRender (f value)) :
    Filter.OfRender (onValue f) := fun value _ =>
  (ofRender_noArguments _).bind fun _ => h value

theorem ofRender_joinFilter (escapes : Bool) : Filter.OfRender (joinFilter escapes) := by
  intro value arguments
  refine (ofRender_oneArgument? _).bind fun separator => (ofRender_toText? _).bind fun text => ?_
  split
  · exact .ok _
  · exact .ok _
  · exact (ofRender_orInvalid _).bind fun _ => .ok _

theorem ofRender_trimFilter : Filter.OfRender trimFilter := fun _ _ =>
  (ofRender_toText _).bind fun _ => (ofRender_oneArgument? _).bind fun _ =>
    (ofRender_toText? _).bind fun _ => .ok _

theorem ofRender_safeFilter : Filter.OfRender safeFilter := fun _ _ =>
  (ofRender_toText _).bind fun _ => (ofRender_noArguments _).bind fun _ => .ok _

theorem ofRender_replaceFilter (escapes : Bool) : Filter.OfRender (replaceFilter escapes) := by
  intro value arguments
  refine (ofRender_toText _).bind fun text => ?_
  split
  · refine (ofRender_toText _).bind fun part => (ofRender_toText _).bind fun new => ?_
    split
    · exact .ok _
    · exact .ok _
  · exact (ofRender_toText _).bind fun _ => ofRender_tooFew
  · exact ofRender_tooFew
  · exact ofRender_tooMany

theorem ofRender_defaultFilter : Filter.OfRender defaultFilter := by
  intro value arguments
  unfold defaultFilter
  extract_lets choose goOn
  have given : ∀ lacks, OfRender (choose lacks) := by
    intro lacks
    unfold choose
    split
    · split <;> exact .ok _
    · exact .ok _
  have chosen : OfRender (goOn ()) := by
    unfold goOn
    split
    · exact given true
    · split
      · exact (ofRender_truth _).bind fun _ => given _
      · exact given false
  exact .ite_bind ofRender_tooMany chosen

/-- No filter has problems of syntax. -/
theorem ofRender_filter? {escapes : Bool} {name : String} {filter : Filter}
    (h : filter? escapes name = some filter) : filter.OfRender := by
  unfold filter? at h
  split at h
  all_goals cases h
  · exact ofRender_onSafeText _
  · exact ofRender_onSafeText _
  · exact ofRender_onText _
  · exact ofRender_onSafeText _
  · exact ofRender_trimFilter
  · exact ofRender_replaceFilter escapes
  · exact ofRender_onValue fun _ => ofRender_orInvalid _
  · exact ofRender_onValue fun _ => ofRender_orInvalid _
  · exact ofRender_joinFilter escapes
  · exact ofRender_onValue ofRender_first
  · exact ofRender_onValue ofRender_last
  · exact ofRender_sortItems
  · exact ofRender_onValue ofRender_reversed
  · exact ofRender_onValue ofRender_absolute
  · exact ofRender_onValue fun value => (ofRender_toItems value).bind ofRender_total
  · exact ofRender_onValue fun value => (ofRender_choices value).map least
  · exact ofRender_onValue fun value => (ofRender_choices value).map greatest
  · exact ofRender_defaultFilter
  · exact ofRender_defaultFilter
  · exact ofRender_onValue ofRender_pairs
  · exact ofRender_safeFilter
  · exact ofRender_onValue fun _ => .ok _
  · exact ofRender_onValue fun _ => .ok _

theorem ofRender_range (arguments : List Value) : OfRender (range arguments) := by
  unfold range
  extract_lets goOn
  have ranged : ∀ bounds, OfRender (goOn bounds) := by
    intro bounds
    unfold goOn
    split
    extract_lets size
    split
    split
    · exact ofRender_invalid
    · exact .ok _
  split
  · exact ofRender_tooFew.bind ranged
  · exact (ofRender_toInt64 _).bind fun _ => (FaultsIn.ok _).bind ranged
  · exact (ofRender_toInt64 _).bind fun _ => (ofRender_toOptionalInt64 _).bind fun _ =>
      (FaultsIn.ok _).bind ranged
  · exact (ofRender_toInt64 _).bind fun _ => (ofRender_toOptionalInt64 _).bind fun _ =>
      (ofRender_toOptionalInt64 _).bind fun _ => (FaultsIn.ok _).bind ranged
  · exact ofRender_tooMany.bind ranged

theorem ofRender_builtin? {name : String} {f : List Value → Outcome Value}
    (h : builtin? name = some f) (arguments : List Value) : OfRender (f arguments) := by
  unfold builtin? at h
  split at h
  all_goals cases h
  exact ofRender_range arguments

namespace Rendering

theorem ofRender_binaryValue (op : BinaryOp) (x y : Value) : OfRender (binaryValue op x y) := by
  cases op with
  | concat =>
    rw [binaryValue]
    split
    · exact ofRender_undefined
    · exact .ok _
  | _ => exact ofRender_orInvalid _

theorem ofRender_comparisonHolds (comparison : Comparison) (x y : Value) :
    OfRender (comparisonHolds comparison x y) := by
  unfold comparisonHolds
  split
  · exact ofRender_undefined
  · cases comparison with
    | member => exact ofRender_orInvalid _
    | notMember => exact (ofRender_orInvalid _).map _
    | _ => exact .ok _

theorem ofRender_sliceNumber (value : Value) : OfRender (sliceNumber value) := by
  unfold sliceNumber
  split
  · exact .ok _
  · exact (ofRender_orInvalid _).map _

theorem ofRender_sliceValue (subject start stop step : Value) :
    OfRender (sliceValue subject start stop step) := by
  unfold sliceValue
  extract_lets goOn
  have sliced : OfRender (goOn ()) := by
    refine (ofRender_sliceNumber _).bind fun _ => (ofRender_sliceNumber _).bind fun _ =>
      (ofRender_sliceNumber _).bind fun _ => ?_
    extract_lets every slice
    have cut : OfRender (slice ()) := by
      unfold slice
      split
      · exact .ok _
      · exact .ok _
      · exact .ok _
      · exact ofRender_invalid
    exact .ite_bind ofRender_invalid cut
  exact .ite_bind ofRender_undefined sliced

theorem ofRender_spreadPlaces (places : List (Bool × Value)) : OfRender (spreadPlaces places) := by
  induction places with
  | nil => exact .ok _
  | cons place rest ih =>
    obtain ⟨spread, value⟩ := place
    rw [spreadPlaces]
    cases spread with
    | true => exact (ofRender_orInvalid _).bind fun _ => ih.bind fun _ => .ok _
    | false => exact ih.bind fun _ => .ok _

theorem ofRender_spreadNames (named : List (Option String × Value)) :
    OfRender (spreadNames named) := by
  induction named with
  | nil => exact .ok _
  | cons entry rest ih =>
    obtain ⟨name?, value⟩ := entry
    unfold spreadNames
    extract_lets goOn
    have joined : ∀ here, OfRender (goOn here) := fun _ => ih.bind fun _ => .ok _
    split
    · exact joined _
    · exact joined _
    · exact joined _
    · exact ofRender_invalid.bind joined

theorem ofRender_withKeywords (places : List (Bool × Value)) (named : List (Option String × Value)) :
    OfRender (withKeywords places named) :=
  (ofRender_spreadNames named).bind fun _ => (ofRender_spreadPlaces places).bind fun _ => .ok _

theorem ofRender_parameterValues (parameters : List String) (arguments : List Value) :
    OfRender (parameterValues parameters arguments) := by
  unfold parameterValues
  split
  extract_lets goOn
  have bound : OfRender (goOn ()) := by
    refine (FaultsIn.mapM _ fun parameter => ?_).bind fun values => ?_
    · split
      split
      · exact ofRender_tooMany
      · exact .ok _
      · exact .ok _
      · exact .ok _
    · split
      · exact .ok _
      · exact ofRender_tooMany
  exact .ite_bind ofRender_tooMany bound

end Rendering

end Templating.Page
