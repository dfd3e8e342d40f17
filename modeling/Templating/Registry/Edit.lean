import Templating.Registry

/-! Registries side by side, edited one at a time: by bindings of their own, by merges of the others,
or from the start. Beside the registries, the single bindings that have gone into each of them. -/

namespace Templating

/-- A name with the function that it is bound to. -/
abbrev Binding := String × Function

namespace Registry

/-- What happens to one of several registries. -/
inductive Edit where
  /-- Binds a name. -/
  | insert (name : String) (f : Function)
  /-- Adds the bindings of the registries at some places, of which later ones win. The place that is
  edited may be among them, and a place may be there more than once. -/
  | merge (places : List Nat)
  /-- Starts anew with bindings, of which later ones win. -/
  | collect (bindings : List Binding)
  /-- Starts anew as the registry at a place is. -/
  | copy (place : Nat)

namespace Edit

/-- The registry at the edited place afterwards. -/
def apply (registries : Nat → Registry) (target : Nat) : Edit → Registry
  | insert name f => (registries target).insert name f
  | merge places => (registries target).mergeAll (places.map registries)
  | collect bindings => Registry.ofList bindings
  | copy place => registries place

/-- The single bindings of the edited place afterwards, in the order in which they were made. -/
def flatten (bindings : Nat → List Binding) (target : Nat) : Edit → List Binding
  | insert name f => bindings target ++ [(name, f)]
  | merge places => bindings target ++ places.flatMap bindings
  | collect given => given
  | copy place => bindings place

/-- Puts a value at a place. -/
def put (values : Nat → α) (target : Nat) (value : α) : Nat → α :=
  fun place => if place = target then value else values place

/-- The registries after an edit of a place. -/
def perform (registries : Nat → Registry) (edit : Nat × Edit) : Nat → Registry :=
  put registries edit.1 (edit.2.apply registries edit.1)

/-- The single bindings after an edit of a place. -/
def note (bindings : Nat → List Binding) (edit : Nat × Edit) : Nat → List Binding :=
  put bindings edit.1 (edit.2.flatten bindings edit.1)

/-- The registries after edits of places, which start without bindings. -/
def run (edits : List (Nat × Edit)) : Nat → Registry := edits.foldl perform fun _ => Registry.empty

/-- The single bindings of each place after edits. -/
def history (edits : List (Nat × Edit)) : Nat → List Binding := edits.foldl note fun _ => []

end Edit

end Registry

end Templating
