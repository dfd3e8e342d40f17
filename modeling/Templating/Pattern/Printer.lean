import Templating.Pattern.Basic

/-! Writing patterns: the source of segments, with every brace of a literal doubled. -/

namespace Templating.Pattern

/-- A character as a source writes it where it stands for itself. -/
def escapeChar (c : Char) : List Char := if c = '\x7b' ∨ c = '\x7d' then [c, c] else [c]

/-- A text as a source writes it where it stands for itself. -/
def escape (text : String) : String := String.ofList (text.toList.flatMap escapeChar)

def segmentText : Segment → String
  | .literal text => escape text
  | .slot slot => slot.text

def print (segments : List Segment) : String := String.join (segments.map segmentText)

end Templating.Pattern
