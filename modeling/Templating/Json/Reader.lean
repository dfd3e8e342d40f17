import Templating.Json.Basic
import Templating.Number.Digits

/-! Reading JSON text. A reader gives what it read and the characters after it. A number without
fraction and exponent stays an integer within the range of
integers; every other number is a double. -/

namespace Templating.Json

/-- The white space between the parts of JSON text. -/
def isSpace (c : Char) : Bool := c == ' ' || c == '\t' || c == '\n' || c == '\r'

def skipSpace (text : List Char) : List Char := text.dropWhile isSpace

/-- The value of a digit in base sixteen. -/
def hexValue? (c : Char) : Option Nat :=
  if '0' ≤ c ∧ c ≤ '9' then some (c.toNat - '0'.toNat)
  else if 'a' ≤ c ∧ c ≤ 'f' then some (c.toNat - 'a'.toNat + 10)
  else if 'A' ≤ c ∧ c ≤ 'F' then some (c.toNat - 'A'.toNat + 10)
  else none

/-- Reads four digits in base sixteen. -/
def readHex4 : List Char → Option (Nat × List Char)
  | a :: b :: c :: d :: rest => do
    let a ← hexValue? a
    let b ← hexValue? b
    let c ← hexValue? c
    let d ← hexValue? d
    some (((a * 16 + b) * 16 + c) * 16 + d, rest)
  | _ => none

/-- Reads the number of an escaped character, which may take a second escape. -/
def readCodePoint (text : List Char) : Option (Char × List Char) := do
  let (first, rest) ← readHex4 text
  if 0xD800 ≤ first ∧ first ≤ 0xDBFF then
    match rest with
    | '\\' :: 'u' :: rest =>
      let (second, rest) ← readHex4 rest
      if 0xDC00 ≤ second ∧ second ≤ 0xDFFF then
        some (Char.ofNat (0x10000 + (first - 0xD800) * 0x400 + (second - 0xDC00)), rest)
      else none
    | _ => none
  else if 0xDC00 ≤ first ∧ first ≤ 0xDFFF then none
  else some (Char.ofNat first, rest)

/-- Reads the rest of a string after its opening quote; `acc` holds what was read, reversed. -/
def readString : (fuel : Nat) → (acc text : List Char) → Option (String × List Char)
  | 0, _, _ => none
  | fuel + 1, acc, text =>
    match text with
    | [] => none
    | '"' :: rest => some (String.ofList acc.reverse, rest)
    | '\\' :: 'u' :: rest => do
      let (c, rest) ← readCodePoint rest
      readString fuel (c :: acc) rest
    | '\\' :: e :: rest => do
      let c ← [('"', '"'), ('\\', '\\'), ('/', '/'), ('b', '\x08'), ('f', '\x0c'), ('n', '\n'),
        ('r', '\r'), ('t', '\t')].lookup e
      readString fuel (c :: acc) rest
    | c :: rest => if c.toNat < 0x20 then none else readString fuel (c :: acc) rest

/-- The longest beginning of digits, after the value `acc`, that stays below 2 ^ 64: its value and
its length. -/
def leadingValue (acc : Nat) : List Char → Nat × Nat
  | [] => (acc, 0)
  | c :: rest =>
    let next := acc * 10 + (c.toNat - '0'.toNat)
    if next < Nat.pow 2 64 then
      let (value, length) := leadingValue next rest
      (value, length + 1)
    else (acc, 0)

/-- A double over powers of ten, in steps that a double can hold. -/
def scaleDown (fuel : Nat) (x : Binary64) (exponent : Nat) : Binary64 :=
  match fuel with
  | 0 => x
  | fuel + 1 =>
    if exponent ≤ 308 then x.div (Binary64.ofDecimal false 1 exponent)
    else if x.isZero then x
    else scaleDown fuel (x.div (Binary64.ofDecimal false 1 308)) (exponent - 308)

/-- The double of decimal digits: as many digits as 64 bits hold become a double, which is scaled
by a power of ten. -/
def decimalDouble (negative : Bool) (whole fraction : List Char) (exponent : Int) : Binary64 :=
  let (value, used) := leadingValue 0 whole
  let (value, more) :=
    if used = whole.length then leadingValue value fraction else (value, 0)
  let exponent := exponent + (whole.length - used : Nat) - (more : Int)
  let x := Binary64.ofInt value
  let x :=
    if 0 ≤ exponent then x.mul (Binary64.ofDecimal false 1 exponent)
    else scaleDown 20 x (-exponent).toNat
  if negative then x.neg else x

/-- Reads the exponent of a number, if there is one. -/
def readExponent : List Char → Option (Option Int × List Char)
  | e :: rest =>
    if e = 'e' ∨ e = 'E' then
      let (negative, rest) := match rest with
        | '+' :: rest => (false, rest)
        | '-' :: rest => (true, rest)
        | rest => (false, rest)
      let digits := rest.takeWhile Char.isDigit
      if digits.isEmpty then none
      else
        let value : Int := digitsValue digits
        some (some (if negative then -value else value), rest.dropWhile Char.isDigit)
    else some (none, e :: rest)
  | [] => some (none, [])

def readNumber (text : List Char) : Option (Json × List Char) := do
  let (negative, text) := match text with
    | '-' :: rest => (true, rest)
    | text => (false, text)
  let whole := text.takeWhile Char.isDigit
  let rest := text.dropWhile Char.isDigit
  if whole.isEmpty ∨ (whole.head? = some '0' ∧ 1 < whole.length) then none
  else
    let (fraction, rest) ← match rest with
      | '.' :: rest =>
        let digits := rest.takeWhile Char.isDigit
        if digits.isEmpty then none else some (some digits, rest.dropWhile Char.isDigit)
      | rest => some (none, rest)
    let (exponent, rest) ← readExponent rest
    let value := digitsValue whole
    if fraction.isNone ∧ exponent.isNone ∧ ¬(negative ∧ value = 0) ∧
        (if negative then value ≤ Nat.pow 2 63 else value < Nat.pow 2 64) then
      some (.int (if negative then -(value : Int) else value), rest)
    else some (.float (decimalDouble negative whole (fraction.getD []) (exponent.getD 0)), rest)

def readWord (word : String) (value : Json) (text : List Char) : Option (Json × List Char) :=
  if word.toList.isPrefixOf text then some (value, text.drop word.length) else none

mutual

/-- Reads a value after any white space. -/
def readValue : (fuel : Nat) → List Char → Option (Json × List Char)
  | 0, _ => none
  | fuel + 1, text =>
    match skipSpace text with
    | '"' :: rest => do
      let (value, rest) ← readString (rest.length + 1) [] rest
      some (.str value, rest)
    | '[' :: rest =>
      match skipSpace rest with
      | ']' :: rest => some (.arr [], rest)
      | rest => do
        let (items, rest) ← readItems fuel rest
        some (.arr items, rest)
    | '\x7b' :: rest =>
      match skipSpace rest with
      | '\x7d' :: rest => some (.obj [], rest)
      | rest => do
        let (fields, rest) ← readFields fuel rest
        some (.ofFields fields, rest)
    | 'n' :: rest => readWord "null" .null ('n' :: rest)
    | 't' :: rest => readWord "true" (.bool true) ('t' :: rest)
    | 'f' :: rest => readWord "false" (.bool false) ('f' :: rest)
    | text => readNumber text

def readItems : (fuel : Nat) → List Char → Option (List Json × List Char)
  | 0, _ => none
  | fuel + 1, text => do
    let (item, rest) ← readValue fuel text
    match skipSpace rest with
    | ',' :: rest =>
      let (items, rest) ← readItems fuel rest
      some (item :: items, rest)
    | ']' :: rest => some ([item], rest)
    | _ => none

def readFields : (fuel : Nat) → List Char → Option (List (String × Json) × List Char)
  | 0, _ => none
  | fuel + 1, text => do
    let '"' :: rest := skipSpace text | none
    let (name, rest) ← readString (rest.length + 1) [] rest
    let ':' :: rest := skipSpace rest | none
    let (value, rest) ← readValue fuel rest
    match skipSpace rest with
    | ',' :: rest =>
      let (fields, rest) ← readFields fuel rest
      some ((name, value) :: fields, rest)
    | '\x7d' :: rest => some ([(name, value)], rest)
    | _ => none

end

/-- The value of JSON text, if it is JSON text. -/
def parse? (text : String) : Option Json :=
  match readValue (text.length + 1) text.toList with
  | some (value, rest) => if (skipSpace rest).isEmpty then some value else none
  | none => none

end Templating.Json
