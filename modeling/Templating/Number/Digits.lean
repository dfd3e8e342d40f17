/-! Numbers written with decimal digits. -/

namespace Templating

/-- The value of digits after what is worth `value`. -/
def digitsFrom (value : Nat) (digits : List Char) : Nat :=
  digits.foldl (fun n c => n * 10 + (c.toNat - '0'.toNat)) value

def digitsValue (digits : List Char) : Nat := digitsFrom 0 digits

/-- The value of a text of digits, if it is one. -/
def digits? (text : List Char) : Option Nat :=
  if text.isEmpty || !text.all Char.isDigit then none else some (digitsValue text)

end Templating
