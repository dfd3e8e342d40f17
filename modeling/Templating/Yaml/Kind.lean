import Templating.Number.Digits
import Templating.Number.Layout
import Templating.Text.Quoted
import Templating.Yaml.Basic

/-! What a scalar stands for. A plain scalar is null, a truth value or a number if it is spelled like
one; all other scalars are texts. -/

namespace Templating.Yaml

/-- What a node is, in the words of a fault. -/
inductive Kind where
  | null
  | bool (value : Bool)
  /-- An integer; one that needs more than sixty-four bits is told apart. -/
  | int (n : Int)
  | float (x : Binary64)
  | text (value : String)
  | list
  | map
  deriving DecidableEq

def isNull (text : String) : Bool := ["", "~", "null", "Null", "NULL"].contains text

def bool? (text : String) : Option Bool :=
  if ["true", "True", "TRUE"].contains text then some true
  else if ["false", "False", "FALSE"].contains text then some false
  else none

/-- The value of a digit in a base. -/
def digit? (base : Nat) (c : Char) : Option Nat :=
  let n :=
    if '0' ≤ c ∧ c ≤ '9' then some (c.toNat - '0'.toNat)
    else if 'a' ≤ c ∧ c ≤ 'f' then some (c.toNat - 'a'.toNat + 10)
    else if 'A' ≤ c ∧ c ≤ 'F' then some (c.toNat - 'A'.toNat + 10)
    else none
  n.filter (· < base)

/-- The value of digits in a base. -/
def natural? (base : Nat) (digits : List Char) : Option Nat :=
  if digits.isEmpty then none
  else digits.foldlM (fun n c => return n * base + (← digit? base c)) 0

/-- Whether digits with a needless zero in front make a text of what would be a number. -/
def isPadded (digits : List Char) : Bool :=
  match digits with
  | '0' :: c :: rest => (c :: rest).all Char.isDigit
  | _ => false

/-- The value of an unsigned integer: in base sixteen, eight or two after `0x`, `0o` or `0b`. -/
def unsigned? : List Char → Option Nat
  | '0' :: 'x' :: digits => natural? 16 digits
  | '0' :: 'o' :: digits => natural? 8 digits
  | '0' :: 'b' :: digits => natural? 2 digits
  | digits => if isPadded digits then none else natural? 10 digits

/-- The integer that a plain scalar is, within one hundred and twenty-eight bits. -/
def int? (text : List Char) : Option Int :=
  match text with
  | '-' :: digits => (unsigned? digits).bind fun n =>
      if n ≤ Nat.pow 2 127 then some (-(n : Int)) else none
  | '+' :: digits => (unsigned? digits).bind fun n =>
      if n < Nat.pow 2 128 then some (n : Int) else none
  | digits => (unsigned? digits).bind fun n =>
      if n < Nat.pow 2 128 then some (n : Int) else none

/-- The exponent of a number, which may be left out. -/
def exponent? : List Char → Option Int
  | [] => some 0
  | e :: rest =>
    if e = 'e' ∨ e = 'E' then
      match rest with
      | '-' :: digits => (digits? digits).map fun n => -(n : Int)
      | '+' :: digits => (digits? digits).map fun n => (n : Int)
      | digits => (digits? digits).map fun n => (n : Int)
    else none

/-- The double that decimal digits are, with a point and an exponent or without. -/
def decimal? (negative : Bool) (text : List Char) : Option Binary64 := do
  let whole := text.takeWhile Char.isDigit
  let rest := text.dropWhile Char.isDigit
  let (fraction, rest) := match rest with
    | '.' :: rest => (rest.takeWhile Char.isDigit, rest.dropWhile Char.isDigit)
    | rest => ([], rest)
  if whole.isEmpty && fraction.isEmpty then none
  else
    let exponent ← exponent? rest
    let x := Binary64.ofDecimal negative (digitsValue (whole ++ fraction))
      (exponent - (fraction.length : Int))
    if x.isFinite then some x else none

def special? (text : String) : Option Binary64 :=
  if [".inf", ".Inf", ".INF", "+.inf", "+.Inf", "+.INF"].contains text then
    some (.infinity false)
  else if ["-.inf", "-.Inf", "-.INF"].contains text then some (.infinity true)
  else if [".nan", ".NaN", ".NAN"].contains text then
    some (.ofMagnitude false (Binary64.infinityMagnitude + Nat.pow 2 51))
  else none

def float? (text : String) : Option Binary64 :=
  let (negative, unsigned) := match text.toList with
    | '-' :: rest => (true, rest)
    | '+' :: rest => (false, rest)
    | rest => (false, rest)
  if isPadded unsigned then none
  else
    match special? text with
    | some x => some x
    | none => decimal? negative unsigned

def scalarKind (text : String) (plain : Bool) : Kind :=
  if !plain then .text text
  else if isNull text then .null
  else
    match bool? text, int? text.toList, float? text with
    | some value, _, _ => .bool value
    | none, some n, _ => .int n
    | none, none, some x => .float x
    | none, none, none => .text text

/-- What a node is; a broken one is like one that is left out. -/
def Node.kind : Node → Kind
  | .scalar text plain => scalarKind text plain
  | .list _ _ => .list
  | .map _ _ => .map
  | .broken => .null

def Kind.describe : Kind → String
  | null => "unit value"
  | bool value => "boolean \x60" ++ (if value then "true" else "false") ++ "\x60"
  | int n =>
    let digits := "integer \x60" ++ toString n ++ "\x60"
    if Int.pow 2 64 ≤ n then digits ++ " as u128"
    else if n < -(Int.pow 2 63) then digits ++ " as i128"
    else digits
  | float x => "floating point \x60" ++ Layout.page.render x ++ "\x60"
  | text value => "string " ++ Text.quoted value
  | list => "sequence"
  | map => "map"

end Templating.Yaml
