import Mathlib.Data.Finset.Card
import Templating.Registry.Edit

/-! Registries are unions in which the last binding of a name wins. A registry holds bindings if it
finds, under each name, the last of them, and every edit keeps this. A registry is determined by what it
finds, so that laws of merging are laws of the choice between two bindings. -/

namespace Templating.Registry

variable {registry other : Registry} {bindings more : List Binding} {name : String} {f : Function}

/-- Whether a function is the one of the last binding of a name. -/
def LastBinding (bindings : List Binding) (name : String) (f : Function) : Prop :=
  ∃ earlier later, bindings = earlier ++ (name, f) :: later ∧ ∀ binding ∈ later, binding.1 ≠ name

/-- The order of names by the code points of their characters. -/
def CodePointsBelow (first second : String) : Prop :=
  first.toList.map Char.toNat < second.toList.map Char.toNat

/-- A registry has the last of the bindings of each name. -/
structure Holds (registry : Registry) (bindings : List Binding) : Prop where
  last : ∀ name, registry.get? name = Assoc.get? name bindings.reverse

theorem get?_reverse_eq_some_iff :
    Assoc.get? name bindings.reverse = some f ↔ LastBinding bindings name f := by
  constructor
  · intro found
    obtain ⟨⟨key, value⟩, here, rfl⟩ := Option.map_eq_some_iff.mp found
    obtain ⟨same, passed, before, split, others⟩ := List.find?_eq_some_iff_append.mp here
    have named : key = name := by simpa using same
    refine ⟨before.reverse, passed.reverse, ?_, fun binding later => ?_⟩
    · rw [← List.reverse_reverse bindings, split, ← named]
      simp
    · simpa using others binding (List.mem_reverse.mp later)
  · rintro ⟨earlier, later, rfl, others⟩
    refine Option.map_eq_some_iff.mpr ⟨(name, f), List.find?_eq_some_iff_append.mpr ?_, rfl⟩
    refine ⟨by simp, later.reverse, earlier.reverse, by simp, fun binding passed => ?_⟩
    simpa using others binding (List.mem_reverse.mp passed)

namespace Holds

theorem empty : Registry.empty.Holds [] := ⟨fun _ => rfl⟩

theorem insert (holds : registry.Holds bindings) (name : String) (f : Function) :
    (registry.insert name f).Holds (bindings ++ [(name, f)]) where
  last asked := by
    rw [get?_insert, holds.last, List.reverse_append, List.reverse_singleton,
      List.singleton_append, Assoc.get?_cons]

theorem merge (holds : registry.Holds bindings) (holds' : other.Holds more) :
    (registry.merge other).Holds (bindings ++ more) where
  last asked := by
    rw [get?_merge, holds.last, holds'.last, List.reverse_append, Assoc.get?_append]

theorem mergeAll {registries : Nat → Registry} {history : Nat → List Binding}
    (all : ∀ place, (registries place).Holds (history place)) (places : List Nat)
    (holds : registry.Holds bindings) :
    (registry.mergeAll (places.map registries)).Holds (bindings ++ places.flatMap history) := by
  induction places generalizing registry bindings with
  | nil => simpa [Registry.mergeAll] using holds
  | cons place rest ih =>
    have next := ih (holds.merge (all place))
    rwa [List.append_assoc] at next

theorem ofList (bindings : List Binding) : (Registry.ofList bindings).Holds bindings where
  last asked := (get?_insertAll .empty bindings asked).trans (Option.or_none ..)

/-! ### What a registry answers -/

theorem get?_eq_some_iff (holds : registry.Holds bindings) :
    registry.get? name = some f ↔ LastBinding bindings name f := by
  rw [holds.last, get?_reverse_eq_some_iff]

theorem contains_iff (holds : registry.Holds bindings) :
    registry.contains name = true ↔ name ∈ bindings.map Prod.fst := by
  have keys : Assoc.keys bindings.reverse = (bindings.map Prod.fst).reverse := List.map_reverse
  rw [contains, holds.last, Assoc.isSome_get?, keys, List.mem_reverse]

theorem mem_names_iff (holds : registry.Holds bindings) :
    name ∈ registry.names ↔ name ∈ bindings.map Prod.fst := by
  rw [← holds.contains_iff]
  exact Assoc.isSome_get?.symm

theorem size_eq (holds : registry.Holds bindings) :
    registry.size = (bindings.map Prod.fst).toFinset.card := by
  have names : (bindings.map Prod.fst).toFinset = registry.names.toFinset := by
    ext name
    rw [List.mem_toFinset, List.mem_toFinset, holds.mem_names_iff]
  have distinct : registry.names.Nodup := registry.sorted.nodup_keys
  rw [names, List.toFinset_card_of_nodup distinct]
  exact (List.length_map _).symm

end Holds

theorem names_increase (registry : Registry) : registry.names.Pairwise CodePointsBelow := by
  refine List.pairwise_map.mpr (registry.sorted.imp fun {first second} before => ?_)
  exact List.map_lt (fun _ _ below => below) (String.lt_iff.mp before)

theorem isEmpty_iff (registry : Registry) : registry.isEmpty = true ↔ registry.size = 0 := by
  rw [isEmpty, List.isEmpty_iff, size, List.length_eq_zero_iff]

/-! ### Edits -/

namespace Edit

variable {registries : Nat → Registry} {history : Nat → List Binding}

theorem put_self (values : Nat → α) (target : Nat) (value : α) : put values target value target = value :=
  if_pos rfl

theorem put_of_ne {values : Nat → α} {target place : Nat} {value : α} (apart : place ≠ target) :
    put values target value place = values place :=
  if_neg apart

theorem apply_holds (all : ∀ place, (registries place).Holds (history place)) (target : Nat)
    (edit : Edit) : (edit.apply registries target).Holds (edit.flatten history target) := by
  cases edit with
  | insert name f => exact (all target).insert name f
  | merge places => exact Holds.mergeAll all places (all target)
  | collect bindings => exact Holds.ofList bindings
  | copy place => exact all place

theorem perform_holds (all : ∀ place, (registries place).Holds (history place))
    (edit : Nat × Edit) (place : Nat) :
    (perform registries edit place).Holds (note history edit place) := by
  by_cases here : place = edit.1
  · rw [perform, note, here, put_self, put_self]
    exact apply_holds all edit.1 edit.2
  · rw [perform, note, put_of_ne here, put_of_ne here]
    exact all place

theorem perform_of_ne (registries : Nat → Registry) {edit : Nat × Edit} {place : Nat}
    (apart : place ≠ edit.1) : perform registries edit place = registries place :=
  put_of_ne apart

theorem foldl_holds (edits : List (Nat × Edit))
    (all : ∀ place, (registries place).Holds (history place)) (place : Nat) :
    (edits.foldl perform registries place).Holds (edits.foldl note history place) := by
  induction edits generalizing registries history with
  | nil => exact all place
  | cons edit rest ih => exact ih (perform_holds all edit)

/-- After every run of edits each registry holds the bindings of its history. -/
theorem run_holds (edits : List (Nat × Edit)) (place : Nat) :
    (run edits place).Holds (Edit.history edits place) :=
  foldl_holds edits (fun _ => Holds.empty) place

end Edit

/-! ### Laws of merging -/

theorem merge_assoc (first second third : Registry) :
    (first.merge second).merge third = first.merge (second.merge third) := by
  refine ext_get? fun name => ?_
  rw [get?_merge, get?_merge, get?_merge, get?_merge, Option.or_assoc]

theorem merge_empty (registry : Registry) : registry.merge empty = registry := rfl

theorem empty_merge (registry : Registry) : empty.merge registry = registry := by
  refine ext_get? fun name => ?_
  rw [get?_merge]
  exact Option.or_none ..

/-- What was merged last can be merged again. -/
theorem merge_merge_self (registry other : Registry) :
    (registry.merge other).merge other = registry.merge other := by
  refine ext_get? fun name => ?_
  rw [get?_merge, get?_merge, ← Option.or_assoc, Option.or_self]

/-- Registries that are merged at once are merged one after another. -/
theorem mergeAll_map_eq_foldl (registries : Nat → Registry) (registry : Registry)
    (places : List Nat) :
    registry.mergeAll (places.map registries) =
      places.foldl (fun merged place => merged.mergeAll [registries place]) registry :=
  List.foldl_map

/-- After every run of edits, a registry has the names that are bound in its history, in increasing
order and each once, and finds under each name the function of the last binding. Merging registries at
once is merging them one after another; merging is associative, has the empty registry as its unit, and
merges what was merged last without effect. An edit leaves all places but its own as they are. -/
theorem edits_unite (edits : List (Nat × Edit)) :
    (∀ place,
      (∀ name, (Edit.run edits place).contains name = true ↔
        name ∈ (Edit.history edits place).map Prod.fst) ∧
      (∀ name f, (Edit.run edits place).get? name = some f ↔
        LastBinding (Edit.history edits place) name f) ∧
      (∀ name, name ∈ (Edit.run edits place).names ↔
        name ∈ (Edit.history edits place).map Prod.fst) ∧
      (Edit.run edits place).names.Pairwise CodePointsBelow ∧
      (Edit.run edits place).size = ((Edit.history edits place).map Prod.fst).toFinset.card ∧
      ((Edit.run edits place).isEmpty = true ↔ (Edit.run edits place).size = 0)) ∧
    (∀ target (places : List Nat), (Edit.run edits target).mergeAll (places.map (Edit.run edits)) =
      places.foldl (fun merged place => merged.mergeAll [Edit.run edits place])
        (Edit.run edits target)) ∧
    (∀ first second third,
      ((Edit.run edits first).merge (Edit.run edits second)).merge (Edit.run edits third) =
        (Edit.run edits first).merge ((Edit.run edits second).merge (Edit.run edits third))) ∧
    (∀ place, (Edit.run edits place).merge empty = Edit.run edits place ∧
      empty.merge (Edit.run edits place) = Edit.run edits place) ∧
    (∀ first second,
      ((Edit.run edits first).merge (Edit.run edits second)).merge (Edit.run edits second) =
        (Edit.run edits first).merge (Edit.run edits second)) ∧
    ∀ edit place, place ≠ edit.1 → Edit.run (edits ++ [edit]) place = Edit.run edits place := by
  have holds := Edit.run_holds edits
  refine ⟨fun place => ⟨?_, ?_, ?_, ?_, ?_, ?_⟩, fun target places => ?_, fun first second third => ?_,
    fun place => ⟨?_, ?_⟩, fun first second => ?_, fun edit place apart => ?_⟩
  · exact fun name => (holds place).contains_iff
  · exact fun name f => (holds place).get?_eq_some_iff
  · exact fun name => (holds place).mem_names_iff
  · exact (Edit.run edits place).names_increase
  · exact (holds place).size_eq
  · exact isEmpty_iff (Edit.run edits place)
  · exact mergeAll_map_eq_foldl (Edit.run edits) (Edit.run edits target) places
  · exact merge_assoc _ _ _
  · exact merge_empty (Edit.run edits place)
  · exact empty_merge (Edit.run edits place)
  · exact merge_merge_self _ _
  · rw [Edit.run, List.foldl_append]
    exact Edit.perform_of_ne _ apart

/-- A function that fails with the same message for all arguments. -/
def failing (message : String) : Function := fun _ => .error message

/-- A registry takes over one that binds a name twice, with its own contents in between. -/
def overlapping : List (Nat × Edit) :=
  [(0, .collect [("b", failing "1"), ("a", failing "2"), ("b", failing "3")]),
    (1, .insert "b" (failing "4")), (1, .merge [0, 1, 0])]

theorem overlapping_unites :
    (1 : Nat) ≠ 0 ∧
      (Edit.run overlapping 1).get? "b" = some (failing "3") ∧
      (Edit.run overlapping 1).size = 2 ∧
      Edit.run (overlapping ++ [(0, .insert "a" (failing "5"))]) 1 = Edit.run overlapping 1 := by
  have united := edits_unite overlapping
  have answers := united.1 1
  refine ⟨by decide, (answers.2.1 "b" _).mpr ?_, answers.2.2.2.2.1.trans rfl,
    united.2.2.2.2.2 (0, .insert "a" (failing "5")) 1 (by decide)⟩
  exact ⟨(Edit.history overlapping 1).dropLast, [], rfl, List.forall_mem_nil _⟩

end Templating.Registry
