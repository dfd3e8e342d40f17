import Mathlib.Data.Finmap
import Templating.Cache.Script

/-! Caches behave as finite maps, whatever resolvers do with them. Two stores whose operations keep
a relation between their states answer every script alike; a resolver is a script, so the proof is
one induction in which the resolver of a call has an induction hypothesis of its own. What a resolver
does to the world beside the store tells whether it was run. -/

namespace Templating

/-! ### Stores that answer alike -/

/-- What two stores come to: the same entry and world, and related states. -/
structure Store.Meets {σ τ α ω : Type} (related : σ → τ → Prop) (one : α × σ × ω)
    (other : α × τ × ω) : Prop where
  entry : one.1 = other.1
  state : related one.2.1 other.2.1
  world : one.2.2 = other.2.2

/-- A relation between the states of two stores that every operation keeps, with equal answers. -/
structure Store.Simulates {σ τ α : Type} (first : Store σ α) (second : Store τ α)
    (related : σ → τ → Prop) : Prop where
  insert {s t} (h : related s t) (key value) :
    related (first.insert s key value) (second.insert t key value)
  get? {s t} (h : related s t) (key) : first.get? s key = second.get? t key
  contains {s t} (h : related s t) (key) : first.contains s key = second.contains t key
  erase {s t} (h : related s t) (key) : related (first.erase s key) (second.erase t key)
  empty : related first.empty second.empty
  size {s t} (h : related s t) : first.size s = second.size t
  isEmpty {s t} (h : related s t) : first.isEmpty s = second.isEmpty t
  getOrInsertIn {ω : Type} {s t} (h : related s t) (key) {resolve : σ → ω → α × σ × ω}
      {resolve' : τ → ω → α × τ × ω}
      (alike : ∀ s t world, related s t → Meets related (resolve s world) (resolve' t world))
      (world : ω) :
    Meets related (first.getOrInsertIn s key resolve world)
      (second.getOrInsertIn t key resolve' world)

namespace Store.Simulates

variable {σ τ α : Type} {first : Store σ α} {second : Store τ α} {related : σ → τ → Prop}

theorem runIn (simulates : first.Simulates second related) (script : Script α) {s : σ} {t : τ}
    (h : related s t) (log : List (Answer α)) :
    Meets related (script.runIn first s log) (script.runIn second t log) := by
  induction script generalizing s t log with
  | done made => exact ⟨rfl, h, rfl⟩
  | insert key value next ih => exact ih (simulates.insert h key value) log
  | get key next ih =>
    simp only [Script.runIn, simulates.get? h key]
    exact ih _ h _
  | contains key next ih =>
    simp only [Script.runIn, simulates.contains h key]
    exact ih _ h _
  | erase key next ih => exact ih (simulates.erase h key) log
  | clear next ih => exact ih simulates.empty log
  | size next ih =>
    simp only [Script.runIn, simulates.size h]
    exact ih _ h _
  | isEmpty next ih =>
    simp only [Script.runIn, simulates.isEmpty h]
    exact ih _ h _
  | getOrInsert key resolver next resolverRuns ih =>
    obtain ⟨entry, left, written⟩ :=
      simulates.getOrInsertIn h key (fun _ _ log h => resolverRuns h (log ++ [.resolving key])) log
    simp only [Script.runIn, entry, written]
    exact ih _ left _

end Store.Simulates

/-! ### Finite maps -/

/-- Finite maps from keys to entries. -/
abbrev EntryMap (α : Type) := Finmap fun _ : String => α

namespace EntryMap

/-- The entry of a key. A key that has none gets one from a resolver: the one that the resolver has
left under it, or else the one that the resolver gives. -/
def getOrInsertIn {ω : Type} (map : EntryMap α) (key : String)
    (resolve : EntryMap α → ω → α × EntryMap α × ω) (world : ω) : α × EntryMap α × ω :=
  match map.lookup key with
  | some kept => (kept, map, world)
  | none =>
    let (made, left, world) := resolve map world
    match left.lookup key with
    | some kept => (kept, left, world)
    | none => (made, left.insert key made, world)

/-- Finite maps as stores. -/
def store : Store (EntryMap α) α where
  insert map key value := map.insert key value
  get? map key := map.lookup key
  contains map key := decide (key ∈ map)
  erase map key := map.erase key
  empty := ∅
  size map := map.keys.card
  isEmpty map := decide (map.keys = ∅)
  getOrInsertIn := getOrInsertIn

end EntryMap

namespace Cache

variable {α : Type} {cache : Cache α} {map : EntryMap α} {key other : String}

/-- The finite map of the entries of a cache. -/
def toMap (cache : Cache α) : EntryMap α :=
  (cache.entries.map fun entry => (⟨entry.1, entry.2⟩ : (_ : String) × α)).toFinmap

theorem lookup_toMap (cache : Cache α) (key : String) :
    cache.toMap.lookup key = cache.get? key := by
  unfold toMap get?
  rw [Finmap.dlookup_list_toFinmap]
  induction cache.entries with
  | nil => rfl
  | cons entry rest ih =>
    rw [Assoc.get?_cons, List.map_cons]
    split
    · next same => rw [← same, List.dlookup_cons_eq]
    · next apart => rw [List.dlookup_cons_ne _ _ (Ne.symm apart), ih]

/-- A cache has the entries of a finite map. -/
structure Represents (cache : Cache α) (map : EntryMap α) : Prop where
  entries : ∀ key, cache.get? key = map.lookup key

theorem represents_toMap (cache : Cache α) : cache.Represents cache.toMap :=
  ⟨fun key => (lookup_toMap cache key).symm⟩

namespace Represents

theorem empty : (Cache.empty : Cache α).Represents ∅ := ⟨fun _ => rfl⟩

theorem insert (represents : cache.Represents map) (key : String) (value : α) :
    (cache.insert key value).Represents (map.insert key value) where
  entries other := by
    rw [get?_insert, represents.entries]
    split
    · next same => rw [← same, Finmap.lookup_insert]
    · next apart => rw [Finmap.lookup_insert_of_ne _ (Ne.symm apart)]

theorem erase (represents : cache.Represents map) (key : String) :
    (cache.erase key).Represents (map.erase key) where
  entries other := by
    rw [get?_erase, represents.entries]
    split
    · next same => rw [← same, Finmap.lookup_erase]
    · next apart => rw [Finmap.lookup_erase_ne (Ne.symm apart)]

theorem contains (represents : cache.Represents map) (key : String) :
    cache.contains key = decide (key ∈ map) := by
  rw [Cache.contains, represents.entries, Bool.eq_iff_iff, Finmap.lookup_isSome, decide_eq_true_iff]

theorem keys (represents : cache.Represents map) : map.keys = (Assoc.keys cache.entries).toFinset := by
  ext key
  rw [Finmap.mem_keys, ← Finmap.lookup_isSome, ← represents.entries, List.mem_toFinset]
  exact Assoc.isSome_get?

theorem size (represents : cache.Represents map) : cache.size = map.keys.card := by
  rw [represents.keys, List.toFinset_card_of_nodup cache.sorted.nodup_keys]
  exact (List.length_map _).symm

theorem isEmpty (represents : cache.Represents map) :
    cache.isEmpty = decide (map.keys = ∅) := by
  rw [represents.keys]
  cases there : cache.entries with
  | nil => simp [Cache.isEmpty, there, Assoc.keys]
  | cons entry rest => simp [Cache.isEmpty, there, Assoc.keys]

theorem getOrInsertIn {ω : Type} (represents : cache.Represents map) (key : String)
    {resolve : Cache α → ω → α × Cache α × ω} {resolveMap : EntryMap α → ω → α × EntryMap α × ω}
    (alike : ∀ cache map world, cache.Represents map →
      Store.Meets Represents (resolve cache world) (resolveMap map world)) (world : ω) :
    Store.Meets Represents (cache.getOrInsertIn key resolve world)
      (map.getOrInsertIn key resolveMap world) := by
  unfold EntryMap.getOrInsertIn
  cases there : map.lookup key with
  | some kept =>
    rw [getOrInsertIn_of_some ((represents.entries key).trans there)]
    exact ⟨rfl, represents, rfl⟩
  | none =>
    rw [getOrInsertIn_of_none ((represents.entries key).trans there)]
    obtain ⟨made, left, after⟩ := alike cache map world represents
    -- The second look sees what the resolver left.
    have second := left.entries key
    simp only [made]
    cases later : (resolveMap map world).2.1.lookup key with
    | some kept =>
      rw [later] at second
      rw [insertIfAbsent_of_some second]
      exact ⟨rfl, left, after⟩
    | none =>
      rw [later] at second
      rw [insertIfAbsent_of_none second]
      exact ⟨rfl, left.insert key _, after⟩

end Represents

theorem simulates_map :
    (store : Store (Cache α) α).Simulates EntryMap.store Represents where
  insert h key value := h.insert key value
  get? h key := h.entries key
  contains h key := h.contains key
  erase h key := h.erase key
  empty := Represents.empty
  size h := h.size
  isEmpty h := h.isEmpty
  getOrInsertIn h key _ _ alike world := h.getOrInsertIn key alike world

/-! ### Calls that get or make an entry -/

theorem get?_insertIfAbsent_self (cache : Cache α) (key : String) (made : α) :
    (cache.insertIfAbsent key made).2.get? key = some (cache.insertIfAbsent key made).1 := by
  cases there : cache.get? key with
  | some kept => rw [insertIfAbsent_of_some there, there]
  | none => rw [insertIfAbsent_of_none there, get?_insert, if_pos rfl]

theorem get?_getOrInsertWith_self (cache : Cache α) (key : String)
    (resolve : Cache α → α × Cache α) :
    (cache.getOrInsertWith key resolve).2.get? key =
      some (cache.getOrInsertWith key resolve).1 := by
  cases there : cache.get? key with
  | some kept => rw [getOrInsertWith_of_some there, there]
  | none =>
    rw [getOrInsertWith_of_none there]
    exact get?_insertIfAbsent_self _ key _

/-- A cache answers every script as the finite map of its entries does, runs the same resolvers, and is
left with the entries of the map that the script leaves. A call that gets or makes the entry of a key
does not run its resolver where the key has an entry, so that the world is as it was. Elsewhere an entry
that the resolver has left under the key is kept, and what the resolver made is stored only if there is
none; the answer is the entry that the key has then, and the other keys and the world are as the resolver
left them. -/
theorem behaves_as_map (cache : Cache α) :
    (∀ script : Script α,
      script.answers store cache = script.answers EntryMap.store cache.toMap ∧
      (script.run store cache).1 = (script.run EntryMap.store cache.toMap).1 ∧
      (script.run store cache).2.Represents (script.run EntryMap.store cache.toMap).2) ∧
    (∀ (key : String) (resolve : Cache α → α × Cache α),
      (∀ kept, cache.get? key = some kept →
        cache.getOrInsertWith key resolve = (kept, cache)) ∧
      (cache.get? key = none → ∀ made left, resolve cache = (made, left) →
        (∀ kept, left.get? key = some kept →
          cache.getOrInsertWith key resolve = (kept, left)) ∧
        (left.get? key = none →
          cache.getOrInsertWith key resolve = (made, left.insert key made)) ∧
        ∀ other, other ≠ key →
          (cache.getOrInsertWith key resolve).2.get? other = left.get? other) ∧
      (cache.getOrInsertWith key resolve).2.get? key =
        some (cache.getOrInsertWith key resolve).1) ∧
    ∀ {ω : Type} (key : String) (resolve : Cache α → ω → α × Cache α × ω) (world : ω),
      (∀ kept, cache.get? key = some kept →
        cache.getOrInsertIn key resolve world = (kept, cache, world)) ∧
      (cache.get? key = none → ∀ made left after, resolve cache world = (made, left, after) →
        cache.getOrInsertIn key resolve world =
          ((cache.getOrInsertWith key fun _ => (made, left)).1,
            (cache.getOrInsertWith key fun _ => (made, left)).2, after)) := by
  refine ⟨fun script => ?_, fun key resolve => ?_, fun key resolve world => ?_⟩
  · have same := simulates_map.runIn script (represents_toMap cache) []
    exact ⟨same.world, same.entry, same.state⟩
  · refine ⟨fun kept there => getOrInsertWith_of_some there resolve, ?_,
      get?_getOrInsertWith_self cache key resolve⟩
    intro absent made left resolved
    rw [getOrInsertWith_of_none absent, resolved]
    refine ⟨fun kept there => insertIfAbsent_of_some there made,
      fun missing => insertIfAbsent_of_none missing made, fun other apart => ?_⟩
    exact get?_insertIfAbsent_of_ne (Ne.symm apart) made
  · refine ⟨fun kept there => getOrInsertIn_of_some there resolve, ?_⟩
    intro absent made left after resolved
    rw [getOrInsertIn_of_none absent, getOrInsertWith_of_none absent, resolved]

/-- A resolver asks for the key that it is to resolve. The failed template of the inner call stays, and
both resolvers have run. A second call runs none. -/
theorem inner_failure_kept :
    let resolver : Script Template :=
      .getOrInsert "page" (.done (.failed .noDefaultParser)) fun _ =>
        .done (.failed (.aborted "late"))
    let kept : Cache Template := Cache.empty.insert "page" (.failed .noDefaultParser)
    let twice : Script Template := .getOrInsert "page" resolver fun _ =>
      .getOrInsert "page" resolver .done
    (Cache.empty : Cache Template).get? "page" = none ∧
      resolver.run store .empty = (.failed (.aborted "late"), kept) ∧
      Cache.empty.getOrInsertWith "page" (resolver.run store) =
        (.failed .noDefaultParser, kept) ∧
      kept.getOrInsertIn "page" (resolver.runIn store) [] = (.failed .noDefaultParser, kept, []) ∧
      twice.answers EntryMap.store (Cache.empty : Cache Template).toMap =
        [.resolving "page", .resolving "page", .entry (.failed .noDefaultParser),
          .entry (.failed .noDefaultParser), .entry (.failed .noDefaultParser)] := by
  intro resolver kept twice
  have resolved : resolver.run store .empty = (.failed (.aborted "late"), kept) := rfl
  obtain ⟨scripts, calls, -⟩ := behaves_as_map (Cache.empty : Cache Template)
  obtain ⟨-, -, again⟩ := behaves_as_map kept
  have call := (calls "page" (resolver.run store)).2.1 rfl _ _ resolved
  exact ⟨rfl, resolved, call.1 _ rfl, (again "page" (resolver.runIn store) []).1 _ rfl,
    (scripts twice).1.symm.trans rfl⟩

end Cache

end Templating
