/-! Binary floating-point numbers of 64 bits, as bit patterns: what a pattern stands for, the
pattern nearest to a ratio of integers, and the fewest decimal digits that read back as a given
pattern. Rounding and digits are exact integer arithmetic. -/

namespace Templating

/-- A double: one sign bit, eleven exponent bits and fifty-two fraction bits. -/
structure Binary64 where
  bits : UInt64
  deriving DecidableEq, Repr

namespace Binary64

instance : Inhabited Binary64 := ⟨⟨0⟩⟩

/-- The sign bit, set for negative numbers and for negative zero. -/
def isNegative (x : Binary64) : Bool := Nat.pow 2 63 ≤ x.bits.toNat

/-- The pattern without its sign bit. -/
def magnitude (x : Binary64) : Nat := x.bits.toNat % Nat.pow 2 63

/-- The pattern of infinity without a sign bit. -/
def infinityMagnitude : Nat := 0x7FF * Nat.pow 2 52

def isFinite (x : Binary64) : Bool := x.magnitude < infinityMagnitude

def isNaN (x : Binary64) : Bool := infinityMagnitude < x.magnitude

def isInfinite (x : Binary64) : Bool := x.magnitude == infinityMagnitude

def isZero (x : Binary64) : Bool := x.magnitude == 0

def ofMagnitude (negative : Bool) (magnitude : Nat) : Binary64 :=
  ⟨UInt64.ofNat (magnitude + if negative then Nat.pow 2 63 else 0)⟩

def zero : Binary64 := ⟨0⟩

def infinity (negative : Bool) : Binary64 := ofMagnitude negative infinityMagnitude

/-- The magnitude of a finite double is `significand · 2 ^ (scale - 1074)`. -/
def significand (x : Binary64) : Nat :=
  if x.magnitude < Nat.pow 2 52 then x.magnitude else x.magnitude % Nat.pow 2 52 + Nat.pow 2 52

/-- The exponent that goes with `significand`, counted from the smallest. -/
def scale (x : Binary64) : Nat := x.magnitude / Nat.pow 2 52 - 1

/-- The quotient of two naturals, rounded to nearest and to even on a tie. -/
def roundQuotient (num den : Nat) : Nat :=
  let quotient := num / den
  let twice := 2 * (num % den)
  if den < twice ∨ (twice = den ∧ quotient % 2 = 1) then quotient + 1 else quotient

/-- The magnitude pattern nearest to `num / den`, to even on a tie. -/
def nearestMagnitude (num den : Nat) : Nat :=
  if num = 0 then 0 else
    let top : Int := (num.log2 : Int) - (den.log2 : Int)
    let reaches : Bool :=
      if 0 ≤ top then den * Nat.pow 2 top.toNat ≤ num else den ≤ num * Nat.pow 2 (-top).toNat
    let exponent : Int := max (if reaches then top - 52 else top - 53) (-1074)
    let quotient :=
      if 0 ≤ exponent then roundQuotient num (den * Nat.pow 2 exponent.toNat)
      else roundQuotient (num * Nat.pow 2 (-exponent).toNat) den
    min ((exponent + 1074).toNat * Nat.pow 2 52 + quotient) infinityMagnitude

/-- The double nearest to `num / den`, to even on a tie; an infinity beyond the largest. -/
def ofRatio (negative : Bool) (num den : Nat) : Binary64 :=
  ofMagnitude negative (nearestMagnitude num den)

/-- The double nearest to an integer. -/
def ofInt (n : Int) : Binary64 := ofRatio (n < 0) n.natAbs 1

/-- The double nearest to `digits · 10 ^ exponent`. -/
def ofDecimal (negative : Bool) (digits : Nat) (exponent : Int) : Binary64 :=
  if 0 ≤ exponent then
    if digits = 0 then ofMagnitude negative 0
    else if 400 < exponent then infinity negative
    else ofRatio negative (digits * Nat.pow 10 exponent.toNat) 1
  else if (digits.log2 : Int) + 1100 < -exponent then ofMagnitude negative 0
  else ofRatio negative digits (Nat.pow 10 (-exponent).toNat)

def ratio (x : Binary64) : Nat × Nat :=
  if 1074 ≤ x.scale then (x.significand * Nat.pow 2 (x.scale - 1074), 1)
  else (x.significand, Nat.pow 2 (1074 - x.scale))

/-- The integer that a double is, if it is one. -/
def toInt? (x : Binary64) : Option Int :=
  if x.isFinite then
    let (num, den) := x.ratio
    if num % den = 0 then
      some (if x.isNegative then -((num / den : Nat) : Int) else ((num / den : Nat) : Int))
    else none
  else none

/-- The machine's number of this pattern, for arithmetic. -/
def toFloat (x : Binary64) : Float := Float.ofBits x.bits

def ofFloat (x : Float) : Binary64 := ⟨x.toBits⟩

def add (x y : Binary64) : Binary64 := ofFloat (x.toFloat + y.toFloat)

def sub (x y : Binary64) : Binary64 := ofFloat (x.toFloat - y.toFloat)

def mul (x y : Binary64) : Binary64 := ofFloat (x.toFloat * y.toFloat)

def div (x y : Binary64) : Binary64 := ofFloat (x.toFloat / y.toFloat)

def pow (x y : Binary64) : Binary64 := ofFloat (Float.pow x.toFloat y.toFloat)

def neg (x : Binary64) : Binary64 := ofMagnitude (!x.isNegative) x.magnitude

def abs (x : Binary64) : Binary64 := ofMagnitude false x.magnitude

/-- The remainder of the division toward zero, with the sign of the dividend. -/
def rem (x y : Binary64) : Binary64 :=
  if x.isFinite && y.isInfinite then x
  else if !x.isFinite || !y.isFinite || y.isZero then
    ofMagnitude false (infinityMagnitude + Nat.pow 2 51)
  else
    let (n, d) := x.ratio
    let (m, e) := y.ratio
    ofRatio x.isNegative ((n * e) % (m * d)) (d * e)

/-- The integer part of a double, toward zero, as a double. -/
def trunc (x : Binary64) : Binary64 :=
  if x.isFinite then
    let (num, den) := x.ratio
    ofRatio x.isNegative (num / den) 1
  else x

/-- The quotient whose remainder is not negative. -/
def quotient (x y : Binary64) : Binary64 :=
  let q := (x.div y).trunc
  let r := x.rem y
  if r.isNegative && !r.isZero && !r.isNaN then
    if !y.isNegative then q.sub (ofInt 1) else q.add (ofInt 1)
  else q

/-- Comparison by value; zeros are equal, and a NaN compares with nothing. -/
def compare? (x y : Binary64) : Option Ordering :=
  if x.isNaN || y.isNaN then none
  else
    let key (z : Binary64) : Int := if z.isNegative then -(z.magnitude : Int) else z.magnitude
    some (compare (key x) (key y))

/-- A decimal number `digits · 10 ^ exponent`. -/
structure Decimal where
  digits : Nat
  exponent : Int
  deriving DecidableEq, Repr

/-- The number of decimal digits of a natural, zero having none. -/
def digitCount (n : Nat) : Nat := if n = 0 then 0 else (Nat.toDigits 10 n).length

/-- The least `k` with `num / den < 10 ^ k`, for a positive ratio. -/
def decimalPoint (num den : Nat) : Int :=
  if den ≤ num then digitCount (num / den)
  else 1 - (digitCount ((den + num - 1) / num - 1) : Int)

/-- Cuts zeros off the end of a natural, at most `fuel` of them, and counts them. -/
def stripZeros : (fuel : Nat) → Nat → Nat × Nat
  | 0, n => (n, 0)
  | fuel + 1, n =>
    if n ≠ 0 ∧ n % 10 = 0 then
      let (m, count) := stripZeros fuel (n / 10)
      (m, count + 1)
    else (n, 0)

/-- The interval of numbers that round to a positive double, in quarters of its last place, over
the common denominator `den`: `low`, `value`, `high`, and whether the ends belong to it. -/
structure Interval where
  low : Nat
  value : Nat
  high : Nat
  den : Nat
  closed : Bool

def interval (x : Binary64) : Interval :=
  let m := x.significand
  let below := if m = Nat.pow 2 52 ∧ 0 < x.scale then 1 else 2
  let closed := m % 2 = 0
  if 1076 ≤ x.scale then
    let unit := Nat.pow 2 (x.scale - 1076)
    ⟨(4 * m - below) * unit, 4 * m * unit, (4 * m + 2) * unit, 1, closed⟩
  else ⟨4 * m - below, 4 * m, 4 * m + 2, Nat.pow 2 (1076 - x.scale), closed⟩

/-- Whether `digits · 10 ^ exponent` rounds to the double of an interval. -/
def Interval.contains (i : Interval) (d : Decimal) : Bool :=
  let (num, den) : Nat × Nat :=
    if 0 ≤ d.exponent then (d.digits * Nat.pow 10 d.exponent.toNat * i.den, 1)
    else (d.digits * i.den, Nat.pow 10 (-d.exponent).toNat)
  if i.closed then i.low * den ≤ num && num ≤ i.high * den
  else i.low * den < num && num < i.high * den

/-- The nearest of the two decimals with last place `10 ^ exponent` next to an interval's value
that lie in the interval. -/
def Interval.decimal? (i : Interval) (exponent : Int) : Option Decimal :=
  let (num, den) : Nat × Nat :=
    if 0 ≤ exponent then (i.value, i.den * Nat.pow 10 exponent.toNat)
    else (i.value * Nat.pow 10 (-exponent).toNat, i.den)
  let below : Decimal := ⟨num / den, exponent⟩
  let above : Decimal := ⟨num / den + 1, exponent⟩
  let nearer := if roundQuotient num den = num / den then [below, above] else [above, below]
  nearer.find? i.contains

/-- The fewest decimal digits that read back as a finite double, without zeros at their end. -/
def shortest (x : Binary64) : Decimal :=
  if x.isZero then ⟨0, 0⟩ else
    let i := x.interval
    let point := decimalPoint i.value i.den
    let found := (List.range 17).findSome? fun n => i.decimal? (point - (n + 1 : Nat))
    match found with
    | some d =>
      let (digits, zeros) := stripZeros 20 d.digits
      ⟨digits, d.exponent + zeros⟩
    | none => ⟨0, 0⟩

end Binary64

end Templating
