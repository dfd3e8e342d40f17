import Templating.Page.Order
import Templating.Text.Search

/-! The operators of page expressions. Integers have 128 bits and do not wrap: a result beyond them is
no result, as is one of operands that an operator is not made for. -/

namespace Templating.Page.Value

def ofResult? (n : Int) : Option Value := if fitsInt n then some (.int n true) else none

def arithmetic? (ints : Int → Int → Option Int) (floats : Binary64 → Binary64 → Binary64)
    (x y : Value) : Option Value :=
  match operands? true x y with
  | some (.ints x y) => (ints x y).bind ofResult?
  | some (.floats x y) => some (.float (floats x y))
  | _ => none

/-- The sum of numbers, or one text or sequence after another. -/
def add? : Value → Value → Option Value
  | list _ xs, list _ ys => some (.list true (xs ++ ys))
  | str x _, str y _ => some (.text (x ++ y))
  | x, y => arithmetic? (fun x y => some (x + y)) Binary64.add x y

def sub? : Value → Value → Option Value :=
  arithmetic? (fun x y => some (x - y)) Binary64.sub

/-- The greatest size of a text or of a sequence that is made of copies. -/
def mostCopied : Nat := 100000000

/-- The number of copies that a value asks for, of something of a size. -/
def toCount? (size : Nat) (value : Value) : Option Nat :=
  (value.toNatBelow? (Nat.pow 2 64)).bind fun n =>
    if size = 0 then some 0 else if n * size ≤ mostCopied then some n else none

/-- Copies of a text one after another. -/
def copies (text : String) (count : Nat) : String :=
  if _h : count = 0 then ""
  else
    let half := copies text (count / 2)
    if count % 2 = 0 then half ++ half else half ++ half ++ text
termination_by count
decreasing_by omega

/-- Copies of a list one after another. -/
def repeated (items : List α) (count : Nat) : List α := (List.replicate count items).flatten

/-- Copies of a text, as many as a value asks for. -/
def copyText? (text : String) (count : Value) : Option Value :=
  (count.toCount? text.utf8ByteSize).map fun n => .text (copies text n)

/-- Copies of a sequence, as many as a value asks for. -/
def copyList? (items : List Value) (count : Value) : Option Value :=
  (count.toCount? items.length).map fun n => .list true (repeated items n)

/-- The product of numbers, or copies of a text or of a sequence. -/
def mul? : Value → Value → Option Value
  | str x _, y => copyText? x y
  | x, str y _ => copyText? y x
  | list _ xs, y => copyList? xs y
  | x, list _ ys => copyList? ys x
  | x, y => arithmetic? (fun x y => some (x * y)) Binary64.mul x y

def div? (x y : Value) : Option Value := do
  let x ← x.toFloat? true
  let y ← y.toFloat? true
  some (.float (x.div y))

/-- The quotient whose remainder is not negative. -/
def floorDiv? : Value → Value → Option Value :=
  arithmetic? (fun x y => if y = 0 then none else some (x / y)) Binary64.quotient

/-- The remainder: of integers the one that is not negative, of doubles the one with the sign of the
dividend. -/
def rem? : Value → Value → Option Value :=
  arithmetic? (fun x y => if y = 0 then none else some (x % y)) Binary64.rem

/-- A power of integers with an exponent that is a natural number below 2 ^ 32. -/
def powInt? (x y : Int) : Option Int :=
  if y < 0 ∨ Int.pow 2 32 ≤ y then none
  else if x = 0 ∨ x = 1 then some (if y = 0 then 1 else x)
  else if x = -1 then some (if y % 2 = 0 then 1 else -1)
  else if 128 ≤ y then none
  else some (Int.pow x y.toNat)

def pow? : Value → Value → Option Value := arithmetic? powInt? Binary64.pow

/-- The opposite of a number. The one integer beyond the greatest whose opposite could be held stays
as it is. -/
def neg? : Value → Option Value
  | int n _ =>
    if n = Int.pow 2 127 then some (.int n false) else if fitsInt n then ofResult? (-n) else none
  | float x => some (.float x.neg)
  | _ => none

/-- One text after another, of any two values. -/
def concat (x y : Value) : Value := .text (x.display ++ y.display)

/-- Whether a container holds a value: a text another text, a sequence an equal item, a map a key. -/
def contains? (container value : Value) : Option Bool :=
  match container with
  | undefined _ => some false
  | str text _ => some (occursIn value.display.toList text.toList)
  | list _ items => some (value.memberOf items)
  | map _ entries => some (valueAt? value entries).isSome
  | function _ => some false
  | abort => some false
  | template _ name parameters =>
    some ((value.str?.bind (templateField? name parameters)).isSome)
  | loop info previous next => some ((value.str?.bind (loopField? info previous next)).isSome)
  | _ => none

/-- The place that a value asks for in a sequence; negative ones count from the end. -/
def place? (length : Nat) (key : Value) : Option Nat := do
  let n ← key.toInt64?
  if 0 ≤ n then some n.toNat
  else if n.natAbs ≤ length then some (length - n.natAbs)
  else none

def field? (name : String) : Value → Option Value
  | map _ entries => valueAt? (.text name) entries
  | template _ own parameters => templateField? own parameters name
  | loop info previous next => loopField? info previous next name
  | _ => none

def item? (value key : Value) : Option Value :=
  match value with
  | map _ entries => valueAt? key entries
  | list _ items => (place? items.length key).bind (items[·]?)
  | str text _ =>
    (place? text.length key).bind fun n => text.toList[n]?.map fun c => .text c.toString
  | template _ name parameters => key.str?.bind (templateField? name parameters)
  | loop info previous next => key.str?.bind (loopField? info previous next)
  | _ => none

def items? : Value → Option (List Value)
  | undefined _ => some []
  | nothing => some []
  | list _ items => some items
  | str text _ => some (text.toList.map fun c => .text c.toString)
  | map _ entries => some (entries.map (·.1))
  | template _ _ _ => some (templateFields.map .text)
  | loop _ _ _ => some (loopFields.map .text)
  | _ => none

def length? : Value → Option Nat
  | str text _ => some text.length
  | list _ items => some items.length
  | map _ entries => some entries.length
  | template _ _ _ => some templateFields.length
  | loop _ _ _ => some loopFields.length
  | _ => none

/-- The end of a slice in a sequence: negative ones count from the end of it. -/
def sliceEnd (length : Nat) (n : Int) : Nat :=
  if 0 ≤ n then min n.toNat length else length - n.natAbs

/-- Every `step`-th item. -/
def everyNth (step : Nat) (items : List α) : List α :=
  (items.zipIdx.filter fun (_, i) => i % step == 0).map (·.1)

/-- The items from `start` to before `stop`, every `step`-th. -/
def slice (start : Int) (stop : Option Int) (step : Nat) (items : List α) : List α :=
  let first := sliceEnd items.length start
  let last := match stop with
    | some n => sliceEnd items.length n
    | none => items.length
  everyNth step ((items.take last).drop first)

/-- The place where a slice that runs backwards starts: the last one for 0 and beyond the end. -/
def backStart (length : Nat) (n : Int) : Nat :=
  if n = 0 ∨ length ≤ n then length - 1 else sliceEnd length n

/-- The items from `start` back to after `stop`, every `step`-th; the first item is reached only
where `stop` is the first place or left out. -/
def sliceBack (start : Int) (stop : Option Int) (step : Nat) (items : List α) : List α :=
  let first := backStart items.length start
  let last := match stop with
    | some n => sliceEnd items.length n
    | none => 0
  everyNth step ((items.take (first + 1)).drop (if last = 0 then 0 else last + 1)).reverse

end Templating.Page.Value
