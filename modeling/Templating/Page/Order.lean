import Templating.Page.Value

/-! Equality and order of page values. Booleans, integers and doubles that stand for one number are
equal; the order goes by kind first. -/

namespace Templating.Page.Value

/-- Two values as one type of operand. -/
inductive Operands where
  | ints (x y : Int)
  | floats (x y : Binary64)
  | texts (x y : String)

def fitsInt (n : Int) : Bool := -(Int.pow 2 127) ≤ n && n < Int.pow 2 127

/-- An integer as one that arithmetic can hold: of 128 bits, the highest counts as the sign. -/
def wrapInt (n : Int) : Int := Int.bmod n (Nat.pow 2 128)

/-- The least integer of 64 bits and the one after the greatest. -/
def int64Bounds : Int × Int := (-(Int.pow 2 63), Int.pow 2 63)

/-- The integer that a double stands for where it has 64 bits; the double next to the greatest such
integer stands for that one. -/
def floatToInt? (x : Binary64) : Option Int :=
  x.toInt?.bind fun n =>
    if n = int64Bounds.2 then some (n - 1)
    else if int64Bounds.1 ≤ n ∧ n < int64Bounds.2 then some n
    else none

def toInt? : Value → Option Int
  | bool value => some (if value then 1 else 0)
  | int value _ => if fitsInt value then some value else none
  | float value => floatToInt? value
  | _ => none

def toInt64? (value : Value) : Option Int :=
  value.toInt?.bind fun n => if int64Bounds.1 ≤ n ∧ n < int64Bounds.2 then some n else none

/-- The natural number that a value stands for, if it is below a limit. -/
def toNatBelow? (limit : Nat) (value : Value) : Option Nat :=
  value.toInt?.bind fun n => if 0 ≤ n ∧ n < limit then some n.toNat else none

/-- The greatest integer of the word that holds an integer: it has 64 bits if they suffice and 128
otherwise. -/
def wordMax (n : Int) (signed : Bool) : Int :=
  if signed then
    if int64Bounds.1 ≤ n ∧ n < int64Bounds.2 then int64Bounds.2 - 1 else Int.pow 2 127 - 1
  else if n < Int.pow 2 64 then Int.pow 2 64 - 1
  else Int.pow 2 128 - 1

/-- Whether a double stands for an integer: cut to the integer's word, it is that integer. -/
def standsFor (x : Binary64) (n : Int) (signed : Bool) : Bool :=
  match x.toInt? with
  | some m => min m (wordMax n signed) == n
  | none => false

/-- The double that a value stands for; unless `lossy`, an integer has to be that double. -/
def toFloat? (lossy : Bool) : Value → Option Binary64
  | bool value => some (Binary64.ofInt (if value then 1 else 0))
  | int value signed =>
    let x := Binary64.ofInt value
    if lossy || standsFor x value signed then some x else none
  | float value => some value
  | _ => none

/-- Whether an integer stands in a word of 128 bits without a sign. -/
def isWide (n : Int) (signed : Bool) : Bool := !signed && Int.pow 2 64 ≤ n

/-- Brings two values to one type. Two wide integers become signed ones of the same bits. -/
def operands? (lossy : Bool) : Value → Value → Option Operands
  | str x _, str y _ => some (.texts x y)
  | float x, y => (y.toFloat? lossy).map (.floats x)
  | x, float y => (x.toFloat? lossy).map (.floats · y)
  | int x signed, int y signed' =>
    if isWide x signed && isWide y signed' then some (.ints (wrapInt x) (wrapInt y))
    else if fitsInt x && fitsInt y then some (.ints x y)
    else none
  | x, y => do
    let x ← x.toInt?
    let y ← y.toInt?
    some (.ints x y)

def floatEq (x y : Binary64) : Bool := x.compare? y == some .eq

def floatRank (x : Binary64) : Int :=
  if x.isNegative then -(x.magnitude : Int) - 1 else x.magnitude

/-- The order of doubles as numbers; one that is no number comes after all others. -/
def floatOrder (x y : Binary64) : Ordering :=
  (x.compare? y).getD (compare (floatRank x) (floatRank y))

def compareText (x y : String) : Ordering :=
  if x < y then .lt else if x = y then .eq else .gt

mutual

def order : Value → Value → Ordering
  | list lazy xs, list lazy' ys =>
    if lazy == lazy' then orderItems xs ys else compare (list lazy xs).kindRank (list lazy' ys).kindRank
  | map _ xs, map _ ys => orderEntries xs ys
  | x, y =>
    match compare x.kindRank y.kindRank with
    | .eq =>
      match operands? true x y with
      | some (.ints x y) => compare x y
      | some (.floats x y) => floatOrder x y
      | some (.texts x y) => compareText x y
      | none => compareText x.nestedText y.nestedText
    | unequal => unequal
termination_by structural x => x

/-- The order of sequences, item by item. -/
def orderItems : List Value → List Value → Ordering
  | [], [] => .eq
  | [], _ :: _ => .lt
  | _ :: _, [] => .gt
  | x :: xs, y :: ys =>
    match order x y with
    | .eq => orderItems xs ys
    | unequal => unequal
termination_by structural xs => xs

/-- The order of maps, entry by entry. -/
def orderEntries : List (Value × Value) → List (Value × Value) → Ordering
  | [], [] => .eq
  | [], _ :: _ => .lt
  | _ :: _, [] => .gt
  | (k, x) :: xs, (l, y) :: ys =>
    match order k l with
    | .eq =>
      match order x y with
      | .eq => orderEntries xs ys
      | unequal => unequal
    | unequal => unequal
termination_by structural xs => xs

end

/-- Puts an entry into a map; an equal key keeps its place and its form. -/
def insertEntry (key value : Value) : List (Value × Value) → List (Value × Value)
  | [] => [(key, value)]
  | (k, v) :: rest =>
    match order key k with
    | .lt => (key, value) :: (k, v) :: rest
    | .eq => (k, value) :: rest
    | .gt => (k, v) :: insertEntry key value rest

/-- The map of entries, of which later ones win. -/
def mapOf (keywords : Bool) (entries : List (Value × Value)) : Value :=
  map keywords (entries.foldl (fun acc (key, value) => insertEntry key value acc) [])

def valueAt? (key : Value) (entries : List (Value × Value)) : Option Value :=
  (entries.find? fun (k, _) => order k key == .eq).map (·.2)

mutual

def equal : Value → Value → Bool
  | undefined _, undefined _ => true
  | nothing, nothing => true
  | list _ xs, list _ ys => equalItems xs ys
  | map _ xs, map _ ys => xs.length == ys.length && includes ys xs
  | function x, function y => x == y
  | abort, abort => true
  | template _ x xs, template _ y ys => x == y && xs == ys
  | loop x _ _, loop y _ _ => x == y
  | x, y =>
    match operands? false x y with
    | some (.ints x y) => x == y
    | some (.floats x y) => floatEq x y
    | some (.texts x y) => x == y
    | none => false
termination_by structural x => x

/-- Equality of sequences, item by item. -/
def equalItems : List Value → List Value → Bool
  | [], [] => true
  | x :: xs, y :: ys => equal x y && equalItems xs ys
  | _, _ => false
termination_by structural xs => xs

def includes (whole : List (Value × Value)) : List (Value × Value) → Bool
  | [] => true
  | (key, x) :: rest =>
    (match valueAt? key whole with
      | some y => equal x y
      | none => false) && includes whole rest
termination_by structural entries => entries

end

def memberOf (value : Value) (items : List Value) : Bool := items.any (equal · value)

end Templating.Page.Value
