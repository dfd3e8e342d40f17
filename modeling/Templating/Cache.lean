import Templating.Template

/-! Caches of resolved templates under keys. A resolver runs between two looks at the cache and may
change it; an entry that it leaves under its own key is kept. -/

namespace Templating

/-- Entries under distinct keys, in increasing order of the keys. -/
structure Cache (α : Type) where
  entries : List (String × α)
  sorted : Assoc.Sorted entries

namespace Cache

def empty : Cache α := ⟨[], .nil⟩

/-- Puts an entry under a key, in place of an earlier one. -/
def insert (cache : Cache α) (key : String) (value : α) : Cache α :=
  ⟨Assoc.insert key value cache.entries, cache.sorted.insert key value⟩

def get? (cache : Cache α) (key : String) : Option α := Assoc.get? key cache.entries

def contains (cache : Cache α) (key : String) : Bool := (cache.get? key).isSome

def erase (cache : Cache α) (key : String) : Cache α :=
  ⟨Assoc.erase key cache.entries, cache.sorted.erase key⟩

def size (cache : Cache α) : Nat := cache.entries.length

def isEmpty (cache : Cache α) : Bool := cache.entries.isEmpty

/-- Puts an entry under a key that has none, and gives the entry that the key has then. -/
def insertIfAbsent (cache : Cache α) (key : String) (value : α) : α × Cache α :=
  match cache.get? key with
  | some kept => (kept, cache)
  | none => (value, cache.insert key value)

/-- The entry under a key; where there is none, the one that a resolver gives, unless the resolver
itself has left one there. The resolver may change a world beside the cache. -/
def getOrInsertIn {ω : Type} (cache : Cache α) (key : String)
    (resolve : Cache α → ω → α × Cache α × ω) (world : ω) : α × Cache α × ω :=
  match cache.get? key with
  | some value => (value, cache, world)
  | none =>
    let (made, cache, world) := resolve cache world
    let (value, cache) := cache.insertIfAbsent key made
    (value, cache, world)

/-- The same for a resolver that changes nothing but the cache. -/
def getOrInsertWith (cache : Cache α) (key : String) (resolve : Cache α → α × Cache α) :
    α × Cache α :=
  let alone (cache : Cache α) (_ : Unit) :=
    let (value, cache) := resolve cache
    (value, cache, ())
  let (value, cache, _) := cache.getOrInsertIn key alone ()
  (value, cache)

section Entries

variable {cache : Cache α} {key other : String} {kept : α}

theorem get?_insert (cache : Cache α) (key other : String) (value : α) :
    (cache.insert key value).get? other = if key = other then some value else cache.get? other :=
  Assoc.get?_insert key other value cache.entries

theorem get?_erase (cache : Cache α) (key other : String) :
    (cache.erase key).get? other = if key = other then none else cache.get? other :=
  Assoc.get?_erase key other cache.entries

theorem insertIfAbsent_of_some (h : cache.get? key = some kept) (value : α) :
    cache.insertIfAbsent key value = (kept, cache) := by
  rw [insertIfAbsent, h]

theorem insertIfAbsent_of_none (h : cache.get? key = none) (value : α) :
    cache.insertIfAbsent key value = (value, cache.insert key value) := by
  rw [insertIfAbsent, h]

theorem get?_insertIfAbsent_of_ne (h : key ≠ other) (value : α) :
    (cache.insertIfAbsent key value).2.get? other = cache.get? other := by
  cases there : cache.get? key with
  | some kept => rw [insertIfAbsent_of_some there]
  | none => rw [insertIfAbsent_of_none there, get?_insert, if_neg h]

section Calls

variable {ω : Type} {world : ω}

theorem getOrInsertIn_of_some (h : cache.get? key = some kept)
    (resolve : Cache α → ω → α × Cache α × ω) :
    cache.getOrInsertIn key resolve world = (kept, cache, world) := by
  rw [getOrInsertIn, h]

theorem getOrInsertIn_of_none (h : cache.get? key = none)
    (resolve : Cache α → ω → α × Cache α × ω) :
    cache.getOrInsertIn key resolve world =
      (((resolve cache world).2.1.insertIfAbsent key (resolve cache world).1).1,
        ((resolve cache world).2.1.insertIfAbsent key (resolve cache world).1).2,
        (resolve cache world).2.2) := by
  rw [getOrInsertIn, h]

theorem getOrInsertWith_of_some (h : cache.get? key = some kept)
    (resolve : Cache α → α × Cache α) : cache.getOrInsertWith key resolve = (kept, cache) := by
  rw [getOrInsertWith, getOrInsertIn_of_some h]

theorem getOrInsertWith_of_none (h : cache.get? key = none) (resolve : Cache α → α × Cache α) :
    cache.getOrInsertWith key resolve =
      (resolve cache).2.insertIfAbsent key (resolve cache).1 := by
  rw [getOrInsertWith, getOrInsertIn_of_none h]

end Calls

end Entries

end Cache

end Templating
