import Templating.Json.Text
import Templating.Number.Digits
import Templating.Sheet.Tree

/-! What sheets do with data: its text, its truth, its parts, its equality, and arithmetic with
numbers. -/

namespace Templating.Sheet

mutual

/-- The text of data: strings as they are, nothing for null, and objects without their fields. -/
def display : Json → String
  | .null => ""
  | .bool value => Json.boolText value
  | .int n => toString n
  | .float x => Layout.sheet.render x
  | .str text => text
  | .arr items => "[" ++ ", ".intercalate (displayAll items) ++ "]"
  | .obj _ => "[object]"

def displayAll : List Json → List String
  | [] => []
  | item :: rest => display item :: displayAll rest

end

/-- Whether data counts as true: all but false, null, zeros, and what is empty. -/
def isTrue : Json → Bool
  | .null => false
  | .bool value => value
  | .int n => n != 0
  | .float x => !x.isZero
  | .str text => text != ""
  | .arr items => !items.isEmpty
  | .obj fields => !fields.isEmpty

mutual

/-- Whether data is equal: integers and doubles are apart, and doubles are equal by value. -/
def same : Json → Json → Bool
  | .null, .null => true
  | .bool a, .bool b => a == b
  | .int a, .int b => a == b
  | .float a, .float b => a.compare? b == some .eq
  | .str a, .str b => a == b
  | .arr a, .arr b => sameItems a b
  | .obj a, .obj b => sameFields a b
  | _, _ => false

def sameItems : List Json → List Json → Bool
  | [], [] => true
  | a :: as, b :: bs => same a b && sameItems as bs
  | _, _ => false

def sameFields : List (String × Json) → List (String × Json) → Bool
  | [], [] => true
  | (k, a) :: as, (l, b) :: bs => k == l && same a b && sameFields as bs
  | _, _ => false

end

/-- The place in a list that a key stands for: digits without a leading zero. -/
def place? (key : String) : Option Nat :=
  match key.toList with
  | ['0'] => some 0
  | '0' :: _ => none
  | digits => digits? digits

def part? (key : String) : Json → Option Json
  | .obj fields => Assoc.get? key fields
  | .arr items => (place? key).bind (items[·]?)
  | _ => none

def follow : List String → Json → Option Json
  | [], value => some value
  | key :: rest, value => (part? key value).bind (follow rest)

/-- A number: an integer of sixty-four bits, with a sign or without, or a double. -/
inductive Quantity where
  | int (n : Int)
  | float (x : Binary64)
  deriving DecidableEq, Repr

namespace Quantity

def ofJson? : Json → Option Quantity
  | .int n => some (int n)
  | .float x => some (float x)
  | _ => none

def toJson : Quantity → Json
  | int n => .int n
  | float x => .float x

/-- The double nearest to a number. -/
def toDouble : Quantity → Binary64
  | int n => .ofInt n
  | float x => x

def ofDouble? (x : Binary64) : Option Quantity := if x.isFinite then some (float x) else none

def isZero (q : Quantity) : Bool := q.toDouble.isZero

def leastSigned : Int := -(Int.pow 2 63)

def greatestSigned : Int := Int.pow 2 63 - 1

def isSigned (n : Int) : Bool := leastSigned ≤ n && n ≤ greatestSigned

def isUnsigned (n : Int) : Bool := 0 ≤ n && n < Int.pow 2 64

/-- The integer that is nearest to `n` and has a sign bit. -/
def saturate (n : Int) : Int := max leastSigned (min greatestSigned n)

/-- The result of an operation: `none` where it fails, `some none` where it is no number. Integers
that both fit with a sign bit, or else without one, stay integers, and the operation fails where the
result does not fit; other numbers count as doubles. -/
def whole (exact : Int → Int → Option Int) (rounded : Binary64 → Binary64 → Binary64)
    (x y : Quantity) : Option (Option Quantity) :=
  let doubles := some (ofDouble? (rounded x.toDouble y.toDouble))
  match x, y with
  | int n, int m =>
    if isSigned n && isSigned m then
      (exact n m).bind fun k => if isSigned k then some (some (int k)) else none
    else if isUnsigned n && isUnsigned m then
      (exact n m).bind fun k => if isUnsigned k then some (some (int k)) else none
    else doubles
  | _, _ => doubles

/-- The quotient of doubles, as an integer where it is one. -/
def div (x y : Quantity) : Option Quantity :=
  let q := x.toDouble.div y.toDouble
  match q.toInt? with
  | some n => some (int (saturate n))
  | none => ofDouble? q

/-- The result of an operator; see `whole`. -/
def apply : MathOp → Quantity → Quantity → Option (Option Quantity)
  | .add => whole (fun n m => some (n + m)) Binary64.add
  | .sub => whole (fun n m => some (n - m)) Binary64.sub
  | .mul => whole (fun n m => some (n * m)) Binary64.mul
  | .div => fun x y => some (x.div y)
  | .rem => whole (fun n m => if m = 0 then none else some (n.tmod m)) Binary64.rem

def compares (allowed : List Ordering) (x y : Quantity) : Bool :=
  match x.toDouble.compare? y.toDouble with
  | some order => allowed.contains order
  | none => false

end Quantity

/-- Whether two values are equal where they are compared: numbers are equal by value. `none` where one
alone is a number. -/
def equal? (x y : Json) : Option Bool :=
  match Quantity.ofJson? x, Quantity.ofJson? y with
  | some n, some m => some (n.compares [.eq] m)
  | none, none => some (same x y)
  | _, _ => none

end Templating.Sheet
