import Templating.Json.Text
import Templating.Text.Quoted

/-! Patterns: one-line texts with places for arguments, `{}` for the next one and `{n}` for the one
at index `n`. -/

namespace Templating

/-- A place for an argument. -/
inductive Slot where
  /-- The next argument. -/
  | next
  /-- The argument at an index. -/
  | index (n : Nat)
  deriving DecidableEq, Repr

/-- A part of a pattern. -/
inductive Segment where
  | literal (text : String)
  | slot (slot : Slot)
  deriving DecidableEq, Repr

def Segment.isSlot : Segment → Bool
  | slot _ => true
  | literal _ => false

/-- A pattern: its parts in order. -/
structure Pattern where
  segments : List Segment
  deriving DecidableEq, Repr

def Slot.text : Slot → String
  | next => "\x7b\x7d"
  | index n => "\x7b" ++ toString n ++ "\x7d"

namespace Pattern

def slotCount (pattern : Pattern) : Nat := pattern.segments.countP Segment.isSlot

/-- The text that stands for an argument: a string without quotes, nothing for null, and JSON text
for the rest. -/
def argumentText : Json → String
  | .str text => text
  | .null => ""
  | value => value.text

/-- The text of a slot: the argument at its index, or the slot itself where there is none. -/
def slotText (slot : Slot) (index : Nat) (arguments : List Json) : String :=
  match arguments[index]? with
  | some value => argumentText value
  | none => slot.text

/-- The text of segments after `count` slots for the next argument. -/
def formatFrom (arguments : List Json) : (count : Nat) → List Segment → String
  | _, [] => ""
  | count, .literal text :: rest => text ++ formatFrom arguments count rest
  | count, .slot .next :: rest =>
    slotText .next count arguments ++ formatFrom arguments (count + 1) rest
  | count, .slot (.index n) :: rest =>
    slotText (.index n) n arguments ++ formatFrom arguments count rest

def format (pattern : Pattern) (arguments : List Json) : String :=
  formatFrom arguments 0 pattern.segments

/-- The arguments that data supplies: the items of an array, none for null, and else the data. -/
def arguments : Json → List Json
  | .arr items => items
  | .null => []
  | value => [value]

/-- A segment, for a reader who looks into a pattern. -/
def describeSegment : Segment → String
  | .literal text => "Literal(" ++ Text.quoted text ++ ")"
  | .slot .next => "Next"
  | .slot (.index n) => "Index(" ++ toString n ++ ")"

/-- The segments, for a reader who looks into a pattern. -/
def describe (pattern : Pattern) : String :=
  "FormatString \x7b segments: [" ++ Text.commaSeparated (pattern.segments.map describeSegment) ++
    "] \x7d"

end Pattern

end Templating
