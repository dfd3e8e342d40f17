/-! Association lists. What is bound goes to its place in the order of the keys, so that the lists stay in
strictly increasing order (`Sorted`), and equal contents are equal lists. -/

namespace Templating.Assoc

/-- Binds a key, in place of an earlier binding. -/
def insert (key : String) (value : α) : List (String × α) → List (String × α)
  | [] => [(key, value)]
  | (k, v) :: rest =>
    if key < k then (key, value) :: (k, v) :: rest
    else if k < key then (k, v) :: insert key value rest
    else (key, value) :: rest

def get? (key : String) (entries : List (String × α)) : Option α :=
  (entries.find? (·.1 == key)).map (·.2)

def erase (key : String) (entries : List (String × α)) : List (String × α) :=
  entries.filter (·.1 != key)

/-- Binds pairs one after another. -/
def insertAll (pairs entries : List (String × α)) : List (String × α) :=
  pairs.foldl (fun acc (key, value) => insert key value acc) entries

/-- The bindings of pairs of which later ones win. -/
def ofList (pairs : List (String × α)) : List (String × α) := insertAll pairs []

/-- The keys in the order of the entries. -/
def keys (entries : List (String × α)) : List String := entries.map (·.1)

/-- Keys that increase strictly. -/
def Sorted (entries : List (String × α)) : Prop := entries.Pairwise (·.1 < ·.1)

theorem get?_cons (key : String) (entry : String × α) (rest : List (String × α)) :
    get? key (entry :: rest) = if entry.1 = key then some entry.2 else get? key rest := by
  by_cases h : entry.1 = key
  · simp [get?, h]
  · simp [get?, h]

theorem get?_insert (key other : String) (value : α) (entries : List (String × α)) :
    get? other (insert key value entries) =
      if key = other then some value else get? other entries := by
  induction entries with
  | nil => simp [insert, get?_cons]
  | cons entry rest ih =>
    obtain ⟨k, v⟩ := entry
    by_cases before : key < k
    · rw [insert, if_pos before, get?_cons]
    · by_cases after : k < key
      · rw [insert, if_neg before, if_pos after, get?_cons, get?_cons, ih]
        have apart : k ≠ key := fun h => String.lt_irrefl key (h ▸ after)
        by_cases found : k = other
        · have missed : key ≠ other := fun h => apart (found.trans h.symm)
          rw [if_pos found, if_pos found, if_neg missed]
        · rw [if_neg found, if_neg found]
      · -- The key that stands here is the key that is bound.
        have same : k = key := String.le_antisymm (String.not_lt.mp before) (String.not_lt.mp after)
        rw [insert, if_neg before, if_neg after, get?_cons, get?_cons, same]
        by_cases found : key = other
        · rw [if_pos found, if_pos found]
        · rw [if_neg found, if_neg found, if_neg found]

section Order

variable {entries : List (String × α)} {key : String}

theorem mem_insert {entry : String × α} {value : α} (h : entry ∈ insert key value entries) :
    entry = (key, value) ∨ entry ∈ entries := by
  induction entries with
  | nil => exact .inl (List.mem_singleton.mp h)
  | cons first rest ih =>
    rw [insert] at h
    split at h
    · simpa using h
    · split at h
      · rcases List.mem_cons.mp h with same | later
        · exact .inr (same ▸ List.mem_cons_self)
        · exact (ih later).imp_right (List.mem_cons_of_mem first)
      · exact (List.mem_cons.mp h).imp_right (List.mem_cons_of_mem first)

theorem Sorted.insert (sorted : Sorted entries) (key : String) (value : α) :
    Sorted (insert key value entries) := by
  induction entries with
  | nil => exact List.pairwise_singleton _ _
  | cons first rest ih =>
    obtain ⟨below, restSorted⟩ := List.pairwise_cons.mp sorted
    rw [Assoc.insert]
    split
    · next before =>
      refine List.pairwise_cons.mpr ⟨fun entry here => ?_, sorted⟩
      rcases List.mem_cons.mp here with same | later
      · rwa [same]
      · exact String.lt_trans before (below entry later)
    · split
      · next after =>
        refine List.pairwise_cons.mpr ⟨fun entry here => ?_, ih restSorted⟩
        rcases mem_insert here with same | later
        · rwa [same]
        · exact below entry later
      · next before after =>
        -- The key that stands here is the key that is bound.
        have same : first.1 = key :=
          String.le_antisymm (String.not_lt.mp before) (String.not_lt.mp after)
        exact List.pairwise_cons.mpr ⟨fun entry later => same ▸ below entry later, restSorted⟩

theorem Sorted.erase (sorted : Sorted entries) (key : String) : Sorted (erase key entries) :=
  List.Pairwise.filter _ sorted

theorem Sorted.nodup_keys (sorted : Sorted entries) : (keys entries).Nodup := by
  refine List.pairwise_map.mpr (sorted.imp fun {first second} before same => ?_)
  rw [same] at before
  exact String.lt_irrefl _ before

theorem get?_erase (key other : String) (entries : List (String × α)) :
    get? other (erase key entries) = if key = other then none else get? other entries := by
  induction entries with
  | nil => simp [erase, get?]
  | cons entry rest ih =>
    by_cases dropped : entry.1 = key
    · have here : erase key (entry :: rest) = erase key rest := by simp [erase, dropped]
      rw [here, ih, get?_cons, dropped]
      split <;> rfl
    · have here : erase key (entry :: rest) = entry :: erase key rest := by simp [erase, dropped]
      rw [here, get?_cons, ih, get?_cons]
      split
      · next found => rw [if_neg fun same => dropped (found.trans same.symm)]
      · rfl

theorem isSome_get? : (get? key entries).isSome ↔ key ∈ keys entries := by
  induction entries with
  | nil => simp [get?, keys]
  | cons entry rest ih =>
    rw [get?_cons, keys, List.map_cons, List.mem_cons, ← keys, ← ih]
    split
    · next same => simp [same]
    · next apart => simp [Ne.symm apart]

theorem insert_of_greatest {value : α} (h : ∀ entry ∈ entries, entry.1 < key) :
    insert key value entries = entries ++ [(key, value)] := by
  induction entries with
  | nil => rfl
  | cons first rest ih =>
    have below := h first List.mem_cons_self
    rw [insert, if_neg (String.lt_asymm below), if_pos below,
      ih fun entry later => h entry (List.mem_cons_of_mem _ later), List.cons_append]

theorem insertAll_of_sorted {pairs : List (String × α)} (sorted : Sorted (entries ++ pairs)) :
    insertAll pairs entries = entries ++ pairs := by
  induction pairs generalizing entries with
  | nil => exact (List.append_nil entries).symm
  | cons pair rest ih =>
    have greatest : ∀ entry ∈ entries, entry.1 < pair.1 := fun entry before =>
      (List.pairwise_append.mp sorted).2.2 entry before pair List.mem_cons_self
    have moved : entries ++ pair :: rest = (entries ++ [pair]) ++ rest := by simp
    rw [moved] at sorted ⊢
    rw [← ih sorted, ← insert_of_greatest greatest]
    rfl

theorem ofList_of_sorted {pairs : List (String × α)} (sorted : Sorted pairs) :
    ofList pairs = pairs :=
  insertAll_of_sorted (show Sorted ([] ++ pairs) from sorted)

theorem get?_insertAll_of_notMem {pairs : List (String × α)} (h : key ∉ keys pairs) :
    get? key (insertAll pairs entries) = get? key entries := by
  induction pairs generalizing entries with
  | nil => rfl
  | cons pair rest ih =>
    obtain ⟨other, apart⟩ := List.ne_and_not_mem_of_not_mem_cons h
    exact (ih apart).trans ((get?_insert ..).trans (if_neg (Ne.symm other)))

theorem get?_ofList {pairs : List (String × α)} (distinct : (keys pairs).Nodup) {value : α}
    (h : (key, value) ∈ pairs) : get? key (ofList pairs) = some value := by
  suffices ∀ entries, get? key (insertAll pairs entries) = some value from this []
  induction pairs with
  | nil => cases h
  | cons pair rest ih =>
    intro entries
    obtain ⟨fresh, others⟩ := List.nodup_cons.mp distinct
    rcases List.mem_cons.mp h with rfl | later
    · exact (get?_insertAll_of_notMem fresh).trans ((get?_insert ..).trans (if_pos rfl))
    · exact ih others later _

theorem map_insert {β : Type} (f : α → β) (key : String) (value : α)
    (entries : List (String × α)) :
    (insert key value entries).map (fun entry => (entry.1, f entry.2)) =
      insert key (f value) (entries.map fun entry => (entry.1, f entry.2)) := by
  induction entries with
  | nil => rfl
  | cons first rest ih =>
    rw [insert, List.map_cons, insert]
    split
    · rfl
    · split
      · rw [List.map_cons, ih]
      · rfl

theorem map_insertAll {β : Type} (f : α → β) (pairs entries : List (String × α)) :
    (insertAll pairs entries).map (fun entry => (entry.1, f entry.2)) =
      insertAll (pairs.map fun pair => (pair.1, f pair.2))
        (entries.map fun entry => (entry.1, f entry.2)) := by
  induction pairs generalizing entries with
  | nil => rfl
  | cons pair rest ih =>
    refine (ih _).trans ?_
    rw [map_insert]
    rfl

theorem map_ofList {β : Type} (f : α → β) (pairs : List (String × α)) :
    (ofList pairs).map (fun entry => (entry.1, f entry.2)) =
      ofList (pairs.map fun pair => (pair.1, f pair.2)) := map_insertAll f pairs []

theorem get?_append (key : String) (first second : List (String × α)) :
    get? key (first ++ second) = (get? key first).or (get? key second) := by
  induction first with
  | nil => rfl
  | cons entry rest ih =>
    rw [List.cons_append, get?_cons, get?_cons, ih]
    split <;> rfl

theorem mem_of_get? {value : α} (h : get? key entries = some value) : (key, value) ∈ entries := by
  induction entries with
  | nil => cases h
  | cons entry rest ih =>
    rw [get?_cons] at h
    split at h
    · next same =>
      cases h
      exact List.mem_cons.mpr (.inl (by rw [← same]))
    · exact List.mem_cons_of_mem entry (ih h)

theorem Sorted.get?_eq_some_iff (sorted : Sorted entries) {value : α} :
    get? key entries = some value ↔ (key, value) ∈ entries := by
  refine ⟨mem_of_get?, fun h => ?_⟩
  have kept := get?_ofList sorted.nodup_keys h
  rwa [ofList_of_sorted sorted] at kept

/-- Entries in order are determined by what is found under each key. -/
theorem Sorted.ext {others : List (String × α)} (sorted : Sorted entries) (sorted' : Sorted others)
    (same : ∀ key, get? key entries = get? key others) : entries = others := by
  have distinct : ∀ {list : List (String × α)}, Sorted list → list.Nodup := fun sorted =>
    List.Pairwise.imp (fun {first second} before same => by
      rw [same] at before
      exact String.lt_irrefl _ before) sorted
  have permuted : entries.Perm others := by
    rw [List.perm_ext_iff_of_nodup (distinct sorted) (distinct sorted')]
    intro entry
    rw [← sorted.get?_eq_some_iff, ← sorted'.get?_eq_some_iff, same]
  refine permuted.eq_of_pairwise (fun first second _ _ before after => ?_) sorted sorted'
  exact absurd before (String.lt_asymm after)

theorem Sorted.insertAll (sorted : Sorted entries) (pairs : List (String × α)) :
    Sorted (insertAll pairs entries) := by
  induction pairs generalizing entries with
  | nil => exact sorted
  | cons pair rest ih => exact ih (sorted.insert pair.1 pair.2)

/-- The last pair of a key counts, and what is there already where no pair has the key. -/
theorem get?_insertAll (key : String) (pairs entries : List (String × α)) :
    get? key (Assoc.insertAll pairs entries) = (get? key pairs.reverse).or (get? key entries) := by
  induction pairs generalizing entries with
  | nil => rfl
  | cons pair rest ih =>
    have step : Assoc.insertAll (pair :: rest) entries =
        Assoc.insertAll rest (insert pair.1 pair.2 entries) := rfl
    rw [step, ih, get?_insert, List.reverse_cons, get?_append, Option.or_assoc, get?_cons]
    congr 1
    split <;> rfl

theorem insertAll_append (first second entries : List (String × α)) :
    Assoc.insertAll (first ++ second) entries =
      Assoc.insertAll second (Assoc.insertAll first entries) := List.foldl_append

theorem Sorted.get?_reverse (sorted : Sorted entries) (key : String) :
    get? key entries.reverse = get? key entries := by
  have kept := get?_insertAll key entries []
  rw [← ofList, ofList_of_sorted sorted] at kept
  rw [kept]
  exact (Option.or_none ..).symm

end Order

end Templating.Assoc
