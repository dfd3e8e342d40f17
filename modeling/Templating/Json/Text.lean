import Templating.Json.Basic
import Templating.Number.Layout

/-! The texts of JSON values: a compact one, and one in lines. -/

namespace Templating.Json

def controlDigits (n : Nat) : String :=
  let digits := Nat.toDigits 16 n
  String.ofList (List.replicate (4 - digits.length) '0' ++ digits)

def escapeChar (c : Char) : String :=
  match c with
  | '"' => "\\\""
  | '\\' => "\\\\"
  | '\x08' => "\\b"
  | '\x0c' => "\\f"
  | '\n' => "\\n"
  | '\r' => "\\r"
  | '\t' => "\\t"
  | c => if c.toNat < 0x20 then "\\u" ++ controlDigits c.toNat else c.toString

def stringText (text : String) : String :=
  "\"" ++ String.join (text.toList.map escapeChar) ++ "\""

def boolText (value : Bool) : String := if value then "true" else "false"

mutual

/-- The compact text of a value: no white space, and the fields of objects in their order. -/
def text : Json → String
  | null => "null"
  | bool value => boolText value
  | int value => toString value
  | float value => Layout.data.render value
  | str value => stringText value
  | arr items => "[" ++ ",".intercalate (itemTexts items) ++ "]"
  | obj fields => "\x7b" ++ ",".intercalate (fieldTexts fields) ++ "\x7d"

def itemTexts : List Json → List String
  | [] => []
  | item :: rest => text item :: itemTexts rest

def fieldTexts : List (String × Json) → List String
  | [] => []
  | (name, value) :: rest => (stringText name ++ ":" ++ text value) :: fieldTexts rest

end

/-- Lines between two brackets, at a depth of two spaces each; no lines leave the brackets alone. -/
def bracketed (opening closing : String) (depth : Nat) (lines : List String) : String :=
  let indent (depth : Nat) : String := "\n" ++ String.ofList (List.replicate (2 * depth) ' ')
  if lines.isEmpty then opening ++ closing
  else
    opening ++ indent (depth + 1) ++ ("," ++ indent (depth + 1)).intercalate lines ++
      indent depth ++ closing

mutual

/-- The text of a value with each item and each field on a line of its own, inside `depth`
brackets. -/
def linedText (depth : Nat) : Json → String
  | arr items => bracketed "[" "]" depth (linedItems (depth + 1) items)
  | obj fields => bracketed "\x7b" "\x7d" depth (linedFields (depth + 1) fields)
  | null => text null
  | bool value => text (bool value)
  | int value => text (int value)
  | float value => text (float value)
  | str value => text (str value)

def linedItems (depth : Nat) : List Json → List String
  | [] => []
  | item :: rest => linedText depth item :: linedItems depth rest

def linedFields (depth : Nat) : List (String × Json) → List String
  | [] => []
  | (name, value) :: rest =>
    (stringText name ++ ": " ++ linedText depth value) :: linedFields depth rest

end

end Templating.Json
