import Templating.Json.Reader
import Templating.Yaml.Text

/-! The scalars of YAML as they are written: plain, between single quotes, or between double quotes with
escapes. A scalar may go on over lines, which are folded: one line break counts as a space, and of
several one is dropped. -/

namespace Templating.Yaml

/-- The characters with which collections inside a line are written. -/
def isFlowMark (c : Char) : Bool :=
  c == ',' || c == '[' || c == ']' || c == '\x7b' || c == '\x7d'

/-- What stands between two parts of a scalar, the last character first. -/
inductive Between where
  /-- White space inside a line. -/
  | blanks (text : List Char)
  /-- Line breaks: the first, which may be escaped, and the others. -/
  | breaks (first : Option Char) (others : List Char)

namespace Between

def nothing : Between := blanks []

/-- One more character of white space, which counts only inside a line. -/
def blank (c : Char) : Between → Between
  | blanks text => blanks (c :: text)
  | breaks first others => breaks first others

def lineBreak (c : Char) : Between → Between
  | blanks _ => breaks (some c) []
  | breaks first others => breaks first (c :: others)

/-- What it counts as, the last character first. The break that folds is dropped. -/
def text : Between → List Char
  | blanks text => text
  | breaks (some '\n') [] => [' ']
  | breaks (some '\n') others => others
  | breaks first others => others ++ first.toList

/-- Whether line breaks stand between. -/
def isBreak : Between → Bool
  | blanks _ => false
  | breaks _ _ => true

end Between

/-- A scalar as read. -/
structure Scalar where
  text : String
  plain : Bool
  /-- Whether line breaks have been passed behind the text, which belongs to reading a plain scalar. -/
  endsLine : Bool
  /-- What follows. -/
  cursor : Cursor

/-- What a character that is no white space does in a plain scalar. -/
inductive Fate where
  | belongs
  | ends
  /-- It may not stand there. -/
  | forbidden
  deriving DecidableEq, Repr

def markFate (flow : Bool) (c : Char) (rest : List Char) : Fate :=
  if flow ∧ c = ':' ∧ (rest.head?.any isFlowMark || rest.head? == some '?') then .forbidden
  else if c = ':' ∧ startsBlank rest then .ends
  else if flow ∧ isFlowMark c then .ends
  else .belongs

/-- What a character does at a place; in a block the lines of a scalar are indented by `indent` at
least. -/
def fate (flow : Bool) (indent : Nat) (between : Between) (mark : Mark) (c : Char)
    (rest : List Char) : Fate :=
  match between with
  | .blanks [] => markFate flow c rest
  | .blanks _ => if c = '#' then .ends else markFate flow c rest
  | .breaks _ _ =>
    if c = '#' ∨ (!flow ∧ mark.column < indent) ∨ (mark.column = 0 ∧ startsMark (c :: rest)) then
      .ends
    else markFate flow c rest

/-- Reads on in a plain scalar: `done` is what has been read, the last character first, and `between`
what has been passed since. A tab is no indentation. -/
def plainFrom (flow : Bool) (indent : Nat) (done : List Char) (between : Between) (mark : Mark) :
    List Char → Option Scalar
  | [] => some ⟨String.ofList done.reverse, true, between.isBreak, mark, []⟩
  | c :: rest =>
    if isBlank c then
      if c = '\t' ∧ between.isBreak ∧ mark.column < indent then none
      else plainFrom flow indent done (between.blank c) (mark.after c) rest
    else if isBreak c then plainFrom flow indent done (between.lineBreak c) (mark.after c) rest
    else
      match fate flow indent between mark c rest with
      | .belongs => plainFrom flow indent (c :: (between.text ++ done)) .nothing (mark.after c) rest
      | .ends => some ⟨String.ofList done.reverse, true, between.isBreak, mark, c :: rest⟩
      | .forbidden => none

/-- A scalar between quotes whose last quote stands at a place. -/
def quoted (done : List Char) (between : Between) (mark : Mark) (rest : List Char) : Scalar :=
  ⟨String.ofList (between.text ++ done).reverse, false, false, mark.after '"', rest⟩

/-- Reads on in a scalar between single quotes, in which a quote is written twice. -/
def singleFrom (done : List Char) (between : Between) (mark : Mark) : List Char → Option Scalar
  | [] => none
  | '\'' :: '\'' :: rest =>
    singleFrom ('\'' :: (between.text ++ done)) .nothing ((mark.after '\'').after '\'') rest
  | '\'' :: rest => some (quoted done between mark rest)
  | c :: rest =>
    if mark.column = 0 ∧ startsMark (c :: rest) then none
    else if isBlank c then singleFrom done (between.blank c) (mark.after c) rest
    else if isBreak c then singleFrom done (between.lineBreak c) (mark.after c) rest
    else singleFrom (c :: (between.text ++ done)) .nothing (mark.after c) rest

/-- The character that stands for itself after a backslash. -/
def escaped? : Char → Option Char
  | '0' => some '\x00'
  | 'a' => some '\x07'
  | 'b' => some '\x08'
  | 't' => some '\t'
  | '\t' => some '\t'
  | 'n' => some '\n'
  | 'v' => some '\x0b'
  | 'f' => some '\x0c'
  | 'r' => some '\r'
  | 'e' => some '\x1b'
  | ' ' => some ' '
  | '"' => some '"'
  | '/' => some '/'
  | '\\' => some '\\'
  | 'N' => some '\u0085'
  | '_' => some '\u00A0'
  | 'L' => some '\u2028'
  | 'P' => some '\u2029'
  | _ => none

/-- The number of digits after a backslash and a letter. -/
def digitCount? : Char → Option Nat
  | 'x' => some 2
  | 'u' => some 4
  | 'U' => some 8
  | _ => none

/-- The character whose number some digits in base sixteen are. -/
def numbered? (digits : List Char) : Option Char := do
  let n ← digits.foldlM (fun n c => return n * 16 + (← Json.hexValue? c)) 0
  if n < 0xD800 ∨ (0xDFFF < n ∧ n < 0x110000) then some (Char.ofNat n) else none

/-- The character that an escape stands for after its backslash, and the number of characters after
the backslash. -/
def escape? : List Char → Option (Char × Nat)
  | [] => none
  | e :: rest =>
    match escaped? e, digitCount? e with
    | some read, _ => some (read, 1)
    | none, some count =>
      if rest.length < count then none
      else (numbered? (rest.take count)).map (·, count + 1)
    | none, none => none

/-- Reads on in a scalar between double quotes; the first `skip` characters belong to an escape that is
read already. -/
def doubleFrom (done : List Char) (between : Between) (skip : Nat) (mark : Mark) :
    List Char → Option Scalar
  | [] => none
  | c :: rest =>
    if 0 < skip then doubleFrom done between (skip - 1) (mark.after c) rest
    else if mark.column = 0 ∧ startsMark (c :: rest) then none
    else if c = '"' then some (quoted done between mark rest)
    else if c = '\\' then
      if rest.head?.any isBreak then
        doubleFrom (between.text ++ done) (.breaks none []) 1 (mark.after c) rest
      else
        match escape? rest with
        | some (read, count) =>
          doubleFrom (read :: (between.text ++ done)) .nothing count (mark.after c) rest
        | none => none
    else if isBlank c then doubleFrom done (between.blank c) 0 (mark.after c) rest
    else if isBreak c then doubleFrom done (between.lineBreak c) 0 (mark.after c) rest
    else doubleFrom (c :: (between.text ++ done)) .nothing 0 (mark.after c) rest

/-- The characters that start no plain scalar, or only before a character that is no white space. -/
def isIndicator (c : Char) : Bool :=
  "-?:,[]\x7b\x7d#&*!|>'\"%@\x60".toList.contains c

def startsPlain (flow : Bool) : List Char → Bool
  | [] => false
  | c :: rest =>
    if isBlank c ∨ isBreak c then false
    else !isIndicator c || (c == '-' && !startsBlank rest) ||
      (!flow && (c == '?' || c == ':') && !startsBlank rest)

def scalar? (flow : Bool) (indent : Nat) (cursor : Cursor) : Option Scalar :=
  match cursor.rest with
  | '"' :: rest => doubleFrom [] .nothing 0 (cursor.mark.after '"') rest
  | '\'' :: rest => singleFrom [] .nothing (cursor.mark.after '\'') rest
  | c :: rest =>
    if startsPlain flow (c :: rest) then
      plainFrom flow indent [c] .nothing (cursor.mark.after c) rest
    else none
  | [] => none

end Templating.Yaml
