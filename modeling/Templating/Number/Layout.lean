import Templating.Number.Binary64

/-! The text of a double: its fewest digits, laid out with a point or with an exponent. -/

namespace Templating

/-- How the digits of a double are laid out. A number `d.ddd · 10 ^ e` is written with a point
alone when `lowest ≤ e ≤ highest`, where a missing bound bounds nothing. -/
structure Layout where
  lowest : Option Int
  highest : Option Int
  /-- Whether a number without a fraction gets the fraction `.0`. -/
  zeroFraction : Bool
  /-- Whether a positive exponent gets a plus sign. -/
  plus : Bool

namespace Layout

/-- Data as text: `1.0`, `1e+16`, `1.5e-7`. -/
def data : Layout := ⟨some (-5), some 15, true, true⟩

/-- Values on a page: `1.0`, and never an exponent. -/
def page : Layout := ⟨none, none, true, false⟩

/-- Values on a sheet: `1`, and never an exponent. -/
def sheet : Layout := ⟨none, none, false, false⟩

/-- Values inside a list on a page: `1.0`, `1e16`, `1e-5`. -/
def nested : Layout := ⟨some (-4), some 15, true, false⟩

/-- Whether a number with decimal exponent `e` is written with a point alone. -/
def isPositional (layout : Layout) (e : Int) : Bool :=
  (match layout.lowest with
    | some low => low ≤ e
    | none => true) &&
  (match layout.highest with
    | some high => e ≤ high
    | none => true)

/-- The digits `digits · 10 ^ exponent` with a point and no exponent. -/
def positional (layout : Layout) (digits : String) (exponent : Int) : String :=
  let point : Int := digits.length + exponent
  if 0 ≤ exponent then
    digits ++ String.ofList (List.replicate exponent.toNat '0') ++
      if layout.zeroFraction then ".0" else ""
  else if 0 < point then
    String.ofList (digits.toList.take point.toNat) ++ "." ++
      String.ofList (digits.toList.drop point.toNat)
  else "0." ++ String.ofList (List.replicate (-point).toNat '0') ++ digits

/-- The digits `digits · 10 ^ exponent` with one digit before the point and an exponent. -/
def scientific (layout : Layout) (digits : String) (exponent : Int) : String :=
  let e : Int := digits.length + exponent - 1
  let fraction := String.ofList (digits.toList.drop 1)
  String.ofList (digits.toList.take 1) ++ (if fraction = "" then "" else "." ++ fraction) ++ "e" ++
    (if layout.plus ∧ 0 < e then "+" else "") ++ toString e

/-- The text of a double; infinities are `inf` and a NaN is `NaN`. -/
def render (layout : Layout) (x : Binary64) : String :=
  if x.isNaN then "NaN"
  else
    let sign := if x.isNegative then "-" else ""
    if x.isInfinite then sign ++ "inf"
    else
      let d := x.shortest
      let digits := toString d.digits
      let exponent := if x.isZero then 0 else d.exponent
      sign ++
        if layout.isPositional (digits.length + exponent - 1) then
          layout.positional digits exponent
        else layout.scientific digits exponent

end Layout

end Templating
