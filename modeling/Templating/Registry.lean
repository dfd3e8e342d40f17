import Templating.Json.Basic
import Templating.Text.Quoted

/-! Registries of the functions that templates may call, under names in increasing order. -/

namespace Templating

/-- A template function: a value for arguments, or a message of failure. -/
abbrev Function := List Json → Except String Json

/-- Functions under distinct names, in increasing order of the names. -/
structure Registry where
  entries : List (String × Function)
  sorted : Assoc.Sorted entries

namespace Registry

def empty : Registry := ⟨[], .nil⟩

/-- Binds a name, in place of an earlier binding. -/
def insert (registry : Registry) (name : String) (f : Function) : Registry :=
  ⟨Assoc.insert name f registry.entries, registry.sorted.insert name f⟩

/-- Binds names one after another. -/
def insertAll (registry : Registry) (bindings : List (String × Function)) : Registry :=
  ⟨Assoc.insertAll bindings registry.entries, registry.sorted.insertAll bindings⟩

/-- Adds the bindings of another registry, which win. -/
def merge (registry other : Registry) : Registry := registry.insertAll other.entries

/-- Adds the bindings of registries, of which later ones win. -/
def mergeAll (registry : Registry) (others : List Registry) : Registry := others.foldl merge registry

/-- The registry of bindings, of which later ones win. -/
def ofList (pairs : List (String × Function)) : Registry := empty.insertAll pairs

def get? (registry : Registry) (name : String) : Option Function := Assoc.get? name registry.entries

def contains (registry : Registry) (name : String) : Bool := (registry.get? name).isSome

/-- The names, in their order. -/
def names (registry : Registry) : List String := Assoc.keys registry.entries

def size (registry : Registry) : Nat := registry.entries.length

def isEmpty (registry : Registry) : Bool := registry.entries.isEmpty

/-- The names, for a reader who looks into a registry. -/
def describe (registry : Registry) : String :=
  "Functions \x7b names: [" ++ Text.commaSeparated (registry.names.map Text.quoted) ++ "] \x7d"

/-- Registries that find the same functions are the same. -/
theorem ext_get? {registry other : Registry} (same : ∀ name, registry.get? name = other.get? name) :
    registry = other := by
  obtain ⟨entries, sorted⟩ := registry
  obtain ⟨others, sorted'⟩ := other
  obtain rfl : entries = others := sorted.ext sorted' same
  rfl

theorem get?_insert (registry : Registry) (name other : String) (f : Function) :
    (registry.insert name f).get? other = if name = other then some f else registry.get? other :=
  Assoc.get?_insert name other f registry.entries

theorem get?_insertAll (registry : Registry) (bindings : List (String × Function)) (name : String) :
    (registry.insertAll bindings).get? name =
      (Assoc.get? name bindings.reverse).or (registry.get? name) :=
  Assoc.get?_insertAll name bindings registry.entries

theorem get?_merge (registry other : Registry) (name : String) :
    (registry.merge other).get? name = (other.get? name).or (registry.get? name) := by
  rw [merge, get?_insertAll, other.sorted.get?_reverse]
  rfl

end Registry

end Templating
