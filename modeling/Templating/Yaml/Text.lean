/-! The characters of YAML texts, and places in them. -/

namespace Templating.Yaml

def isBlank (c : Char) : Bool := c == ' ' || c == '\t'

/-- The breaks between lines after `unifyBreaks`. -/
def isBreak (c : Char) : Bool := c == '\n' || c == '\u2028' || c == '\u2029'

/-- Whether a text ends here or goes on with white space or a line break. -/
def startsBlank : List Char → Bool
  | [] => true
  | c :: _ => isBlank c || isBreak c

/-- Whether a line starts with one of the two marks between documents. -/
def startsMark : List Char → Bool
  | '-' :: '-' :: '-' :: rest => startsBlank rest
  | '.' :: '.' :: '.' :: rest => startsBlank rest
  | _ => false

/-- Whether a character may stand in a text with one kind of line break. -/
def isAllowed (c : Char) : Bool :=
  let n := c.toNat
  c == '\t' || c == '\n' || (0x20 ≤ n && n ≤ 0x7E) || (0xA0 ≤ n && n ≤ 0xD7FF) ||
    (0xE000 ≤ n && n ≤ 0xFFFD) || 0x10000 ≤ n

/-- A text with one kind of line break, but for the separators of lines and paragraphs, which a folded
text keeps. -/
def unifyBreaks : List Char → List Char
  | '\r' :: '\n' :: rest => '\n' :: unifyBreaks rest
  | c :: rest => (if c = '\r' ∨ c = '\u0085' then '\n' else c) :: unifyBreaks rest
  | [] => []

/-- A line and a column, both from zero on. -/
structure Mark where
  line : Nat
  column : Nat
  deriving DecidableEq, Repr

def Mark.after (mark : Mark) (c : Char) : Mark :=
  if isBreak c then ⟨mark.line + 1, 0⟩ else ⟨mark.line, mark.column + 1⟩

/-- What is still to be read of a text, and where it stands. -/
structure Cursor where
  mark : Mark
  rest : List Char

/-- Passes characters that are no line breaks. -/
def Cursor.skip (cursor : Cursor) (count : Nat) : Cursor :=
  ⟨⟨cursor.mark.line, cursor.mark.column + count⟩, cursor.rest.drop count⟩

/-- The start of a text. A byte order mark counts as a column. -/
def Cursor.start : List Char → Cursor
  | '\uFEFF' :: rest => ⟨⟨0, 1⟩, rest⟩
  | text => ⟨⟨0, 0⟩, text⟩

end Templating.Yaml
