import Templating.Yaml.Scalar
import Templating.Yaml.Token

/-! Cutting YAML texts into tokens. Whether a scalar or a collection between brackets is a key turns out
at the colon behind it. Until then the tokens from it on are held back, so that where a text goes wrong
only the tokens that cannot change any more are known. -/

namespace Templating.Yaml

/-- What turns into a key if a colon follows on its line. -/
structure Candidate where
  /-- The number of the token before which the token of the key would stand. -/
  number : Nat
  /-- The number of brackets around it. -/
  depth : Nat
  mark : Mark
  /-- Whether nothing but a key may stand there. -/
  required : Bool

/-- Whether a candidate can be no key any more at a place: a key and its colon stand on one line, at
most 1024 columns apart. -/
def Candidate.isStale (candidate : Candidate) (mark : Mark) : Bool :=
  decide (candidate.mark.line < mark.line) ||
    decide (candidate.mark.column + 1024 < mark.column)

/-- How far the cutting of a text has got. -/
structure Cutting where
  cursor : Cursor
  /-- The tokens that have been cut, the last first. -/
  tokens : List Token
  /-- Their number. -/
  count : Nat
  /-- The number of those that cannot change any more. -/
  settled : Nat
  /-- The columns of the blocks that are open, the innermost first. -/
  columns : List Nat
  /-- Whether a key may stand at the next token. -/
  keyAllowed : Bool
  /-- The number of brackets that are open. -/
  depth : Nat
  /-- The candidates, the last first, of which each stands between more brackets than the one before. -/
  candidates : List Candidate

namespace Cutting

def isFlow (s : Cutting) : Bool := decide (0 < s.depth)

def emit (s : Cutting) (token : Token) : Cutting :=
  { s with tokens := token :: s.tokens, count := s.count + 1 }

/-- Adds a token before the one of a number. -/
def insert (s : Cutting) (number : Nat) (token : Token) : Cutting :=
  let later := s.count - number
  { s with
    tokens := s.tokens.take later ++ token :: s.tokens.drop later
    count := s.count + 1 }

def skip (s : Cutting) (count : Nat) : Cutting := { s with cursor := s.cursor.skip count }

/-- Allows a key at the next token, or not. -/
def allowKey (s : Cutting) (keyAllowed : Bool) : Cutting := { s with keyAllowed }

/-- Drops the candidates that can be no keys any more. All before such a candidate are such too. -/
def dropStale (s : Cutting) : Option Cutting :=
  let candidates := s.candidates.takeWhile (!·.isStale s.cursor.mark)
  if (s.candidates.drop candidates.length).any (·.required) then none
  else some { s with candidates }

/-- The candidate between the innermost brackets. -/
def candidate? (s : Cutting) : Option Candidate := s.candidates.head?.filter (·.depth == s.depth)

/-- Drops the candidate between the innermost brackets. -/
def dropCandidate (s : Cutting) : Option Cutting :=
  match s.candidate? with
  | some candidate =>
    if candidate.required then none else some { s with candidates := s.candidates.drop 1 }
  | none => some s

/-- Makes the next token a candidate if a key may stand there. -/
def markCandidate (s : Cutting) : Option Cutting :=
  if s.keyAllowed then do
    let s ← s.dropCandidate
    let required := !s.isFlow && s.columns.head? == some s.cursor.mark.column
    return { s with candidates := ⟨s.count, s.depth, s.cursor.mark, required⟩ :: s.candidates }
  else some s

/-- Opens a block at a column before the token of a number unless it is open already. -/
def openBlock (s : Cutting) (token : Token) (column number : Nat) : Cutting :=
  if s.isFlow ∨ s.columns.head?.any (column ≤ ·) then s
  else { s.insert number token with columns := column :: s.columns }

/-- Closes blocks as long as their columns are in question. -/
def closeBlocks (s : Cutting) (closes : Nat → Bool) : Cutting :=
  if s.isFlow then s
  else
    let columns := s.columns.dropWhile closes
    let closed := s.columns.length - columns.length
    { s with
      tokens := List.replicate closed .blockEnd ++ s.tokens
      count := s.count + closed
      columns }

mutual

/-- Passes white space, line breaks and comments. A tab is no indentation, and a key may stand at the
start of a line outside of brackets. -/
def passFrom (flow keyAllowed : Bool) (mark : Mark) : List Char → Cursor × Bool
  | [] => (⟨mark, []⟩, keyAllowed)
  | c :: rest =>
    if c = ' ' ∨ (c = '\t' ∧ (flow || !keyAllowed)) then
      passFrom flow keyAllowed (mark.after c) rest
    else if c = '#' then passComment flow keyAllowed (mark.after c) rest
    else if isBreak c then passFrom flow (keyAllowed || !flow) (mark.after c) rest
    else (⟨mark, c :: rest⟩, keyAllowed)
termination_by structural text => text

/-- Passes the rest of a comment and what `passFrom` passes. -/
def passComment (flow keyAllowed : Bool) (mark : Mark) : List Char → Cursor × Bool
  | [] => (⟨mark, []⟩, keyAllowed)
  | c :: rest =>
    if isBreak c then passFrom flow (keyAllowed || !flow) (mark.after c) rest
    else passComment flow keyAllowed (mark.after c) rest
termination_by structural text => text

end

/-- Goes on to the next token and closes the blocks that end before it. -/
def next (s : Cutting) : Option Cutting := do
  let (cursor, keyAllowed) := passFrom s.isFlow s.keyAllowed s.cursor.mark s.cursor.rest
  let s ← { s with cursor, keyAllowed }.dropStale
  return s.closeBlocks (cursor.mark.column < ·)

/-- Ends the text, and its last line. -/
def finish (s : Cutting) : Option Cutting := do
  let s ← (s.closeBlocks fun _ => true).dropCandidate
  let line := s.cursor.mark.line + (if s.cursor.mark.column = 0 then 0 else 1)
  return { s.emit .textEnd with cursor := ⟨⟨line, 0⟩, []⟩ }

/-- Cuts a mark between documents. -/
def cutMark (s : Cutting) (token : Token) : Option Cutting := do
  let s ← (s.closeBlocks fun _ => true).dropCandidate
  return ((s.allowKey false).skip 3).emit token

def cutOpening (s : Cutting) (token : Token) : Option Cutting := do
  let s ← s.markCandidate
  return (({ s with depth := s.depth + 1 }.allowKey true).skip 1).emit token

def cutClosing (s : Cutting) (token : Token) : Option Cutting := do
  let s ← s.dropCandidate
  return (({ s with depth := s.depth - 1 }.allowKey false).skip 1).emit token

def cutComma (s : Cutting) : Option Cutting := do
  let s ← s.dropCandidate
  return ((s.allowKey true).skip 1).emit .comma

/-- Cuts the dash before an item. -/
def cutDash (s : Cutting) : Option Cutting :=
  if s.isFlow ∨ s.keyAllowed then do
    let s ← (s.openBlock .blockList s.cursor.mark.column s.count).dropCandidate
    return ((s.allowKey true).skip 1).emit .dash
  else none

/-- Cuts the question mark before a key. -/
def cutKey (s : Cutting) : Option Cutting :=
  if s.isFlow ∨ s.keyAllowed then do
    let s ← (s.openBlock .blockMap s.cursor.mark.column s.count).dropCandidate
    return ((s.allowKey (!s.isFlow)).skip 1).emit .key
  else none

/-- Cuts the colon before a value. What stands before it on the line is its key. -/
def cutValue (s : Cutting) : Option Cutting :=
  match s.candidate? with
  | some ⟨number, _, mark, _⟩ =>
    let s := (s.insert number .key).openBlock .blockMap mark.column number
    some ((({ s with candidates := s.candidates.drop 1 }.allowKey false).skip 1).emit .value)
  | none =>
    if s.isFlow ∨ s.keyAllowed then
      let s := s.openBlock .blockMap s.cursor.mark.column s.count
      some (((s.allowKey (!s.isFlow)).skip 1).emit .value)
    else none

def cutScalar (s : Cutting) : Option Cutting := do
  let s ← s.markCandidate
  let scalar ← scalar? s.isFlow (s.columns.head?.elim 0 (· + 1)) s.cursor
  return { s with cursor := scalar.cursor, keyAllowed := scalar.endsLine }.emit
    (.scalar scalar.text scalar.plain)

def cut (s : Cutting) : Option Cutting := do
  let s ← s.next
  let atStart := s.cursor.mark.column == 0
  match s.cursor.rest with
  | [] => s.finish
  | c :: rest =>
    if atStart && c == '%' then none
    else if atStart && startsMark (c :: rest) then
      s.cutMark (if c = '-' then .documentStart else .documentEnd)
    else if c = '[' then s.cutOpening .flowList
    else if c = '\x7b' then s.cutOpening .flowMap
    else if c = ']' then s.cutClosing .flowListEnd
    else if c = '\x7d' then s.cutClosing .flowMapEnd
    else if c = ',' then s.cutComma
    else if c = '-' ∧ startsBlank rest then s.cutDash
    else if c = '?' ∧ (s.isFlow || startsBlank rest) then s.cutKey
    else if c = ':' ∧ (s.isFlow || startsBlank rest) then s.cutValue
    else s.cutScalar

/-- Notes which tokens cannot change any more: those before the first candidate. -/
def settle (s : Cutting) : Option Cutting := do
  let s ← s.dropStale
  return { s with settled := s.candidates.getLast?.elim s.count (·.number) }

def settledTokens (s : Cutting) : List Token := s.tokens.reverse.take s.settled

/-- Cuts tokens up to the end of the text or to where it goes wrong. -/
def run : (fuel : Nat) → Cutting → List Token
  | 0, s => s.settledTokens
  | fuel + 1, s =>
    match s.cut.bind settle with
    | none => s.settledTokens
    | some next =>
      if next.tokens.head? = some .textEnd then next.settledTokens else run fuel next

def start (text : List Char) : Cutting := ⟨.start text, [], 0, 0, [], true, 0, []⟩

end Cutting

/-- The tokens of a text up to its end or to where it goes wrong. Every token but the last is cut from
at least one character. -/
def tokens (source : String) : List Token :=
  let text := unifyBreaks source.toList
  if text.all isAllowed then (Cutting.start text).run (text.length + 1) else []

end Templating.Yaml
