import Templating.Assoc
import Templating.Number.Binary64

/-! JSON values. The type does not ask for an order of the fields of an object: `Json.ofFields` brings
fields into increasing order of their names, and `Json.Proper` says of a value that all of its objects
are in order. -/

namespace Templating

/-- A JSON value; integers and doubles are apart. -/
inductive Json where
  | null
  | bool (value : Bool)
  | int (value : Int)
  | float (value : Binary64)
  | str (value : String)
  | arr (items : List Json)
  | obj (fields : List (String × Json))
  deriving Inhabited

namespace Json

/-- An object with the given fields, of which later ones win. -/
def ofFields (fields : List (String × Json)) : Json := .obj (Assoc.ofList fields)

def field? (name : String) : Json → Option Json
  | obj fields => Assoc.get? name fields
  | _ => none

def str? : Json → Option String
  | str value => some value
  | _ => none

def leastInt : Int := -(Int.pow 2 63)

def greatestInt : Int := Int.pow 2 64 - 1

/-- An integer, or the double nearest to it where the range of integers ends. -/
def ofInt (n : Int) : Json :=
  if leastInt ≤ n ∧ n ≤ greatestInt then .int n else .float (Binary64.ofInt n)

end Json

mutual

/-- Integers in the range of JSON, doubles that are numbers, and fields in increasing order. -/
def Json.Proper : Json → Prop
  | .null => True
  | .bool _ => True
  | .int n => Json.leastInt ≤ n ∧ n ≤ Json.greatestInt
  | .float x => x.isFinite = true
  | .str _ => True
  | .arr items => Json.ProperItems items
  | .obj fields => Assoc.Sorted fields ∧ Json.ProperFields fields
termination_by structural value => value

def Json.ProperItems : List Json → Prop
  | [] => True
  | item :: rest => item.Proper ∧ Json.ProperItems rest
termination_by structural items => items

def Json.ProperFields : List (String × Json) → Prop
  | [] => True
  | (_, value) :: rest => value.Proper ∧ Json.ProperFields rest
termination_by structural fields => fields

end

end Templating
