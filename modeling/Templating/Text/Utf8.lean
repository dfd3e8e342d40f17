/-! UTF-8: the octets of a text, and the text of octets with the place and kind of the first defect.
Reading stops at the end of the longest well-formed part and says how the rest goes wrong. -/

namespace Templating

/-- A sequence of octets, as written to files and streams. -/
abbrev Bytes := List UInt8

namespace Utf8

/-- The octets of a text. -/
def encode (text : String) : Bytes := text.toList.flatMap String.utf8EncodeChar

/-- How octets fail to be UTF-8, `index` octets after their start. -/
inductive Defect where
  /-- They end inside a character. -/
  | incomplete (index : Nat)
  /-- The next `length` octets begin no character. -/
  | invalid (length index : Nat)
  deriving DecidableEq, Repr

namespace Defect

def index : Defect → Nat
  | incomplete index => index
  | invalid _ index => index

def message : Defect → String
  | incomplete index => "incomplete utf-8 byte sequence from index " ++ toString index
  | invalid length index =>
    "invalid utf-8 sequence of " ++ toString length ++ " bytes from index " ++ toString index

end Defect

/-- The bits a first octet holds and the range of each octet that must follow it. -/
def lead? (octet : Nat) : Option (Nat × List (Nat × Nat)) :=
  if octet < 0x80 then some (octet, [])
  else if octet < 0xC2 then none
  else if octet < 0xE0 then some (octet - 0xC0, [(0x80, 0xBF)])
  else if octet = 0xE0 then some (0, [(0xA0, 0xBF), (0x80, 0xBF)])
  else if octet = 0xED then some (0xD, [(0x80, 0x9F), (0x80, 0xBF)])
  else if octet < 0xF0 then some (octet - 0xE0, [(0x80, 0xBF), (0x80, 0xBF)])
  else if octet = 0xF0 then some (0, [(0x90, 0xBF), (0x80, 0xBF), (0x80, 0xBF)])
  else if octet < 0xF4 then
    some (octet - 0xF0, [(0x80, 0xBF), (0x80, 0xBF), (0x80, 0xBF)])
  else if octet = 0xF4 then some (4, [(0x80, 0x8F), (0x80, 0xBF), (0x80, 0xBF)])
  else none

/-- What the start of octets reads as. -/
inductive Piece where
  /-- A character of `size` octets. -/
  | char (value : Char) (size : Nat)
  /-- A proper beginning of a character and then the end. -/
  | incomplete
  /-- `length` octets that begin no character with the octet after them. -/
  | invalid (length : Nat)
  deriving DecidableEq, Repr

/-- Reads the octets that follow a first octet: `seen` octets are read and hold `value`, and each
of `ranges` is owed. -/
def Piece.continue (seen value : Nat) : List (Nat × Nat) → Bytes → Piece
  | [], _ => .char (Char.ofNat value) seen
  | _ :: _, [] => .incomplete
  | (low, high) :: ranges, octet :: rest =>
    if low ≤ octet.toNat ∧ octet.toNat ≤ high then
      Piece.continue (seen + 1) (value * 64 + (octet.toNat - 0x80)) ranges rest
    else .invalid seen

def Piece.read (octet : UInt8) (rest : Bytes) : Piece :=
  match lead? octet.toNat with
  | some (value, ranges) => Piece.continue 1 value ranges rest
  | none => .invalid 1

/-- Reads the characters of octets that start at `index`; the first `skip` of them belong to a
character that is already read. -/
def decodeFrom (index : Nat) : (skip : Nat) → Bytes → Except Defect (List Char)
  | _, [] => .ok []
  | skip + 1, _ :: rest => decodeFrom (index + 1) skip rest
  | 0, octet :: rest =>
    match Piece.read octet rest with
    | .char value size => (value :: ·) <$> decodeFrom (index + 1) (size - 1) rest
    | .incomplete => .error (.incomplete index)
    | .invalid length => .error (.invalid length index)

/-- The text of octets, or their first defect. -/
def decode (bytes : Bytes) : Except Defect String := String.ofList <$> decodeFrom 0 0 bytes

end Utf8

end Templating
