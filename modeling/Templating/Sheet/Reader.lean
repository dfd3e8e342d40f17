import Templating.Sheet.Grammar
import Templating.Sheet.Node

/-! Reading sheets. The text before the first tag and between tags stands for itself; a sheet that does
not fit the grammar up to its end is no sheet. -/

namespace Templating.Sheet

open Phrase

def startsTag : List Char → Bool
  | '\x7b' :: c :: _ => c == '\x7b' || c == '%' || c == '#'
  | _ => false

/-- The text up to the first tag, and the rest. -/
def untilTag : List Char → List Char × List Char
  | [] => ([], [])
  | c :: rest =>
    if startsTag (c :: rest) then ([], c :: rest)
    else
      let (text, after) := untilTag rest
      (c :: text, after)

/-- The start or the end of a tag, and whether it trims the text on its other side. -/
def bracket (trimming plain : String) : Phrase Bool :=
  oneOf [(trimming, true), (plain, false)]

def tagStart : Phrase Bool := lexeme (bracket "\x7b%-" "\x7b%")

def tagEnd : Phrase Bool := bracket "-%\x7d" "%\x7d"

def tag (inside : Phrase α) : Phrase (Trims × α) := do
  let before ← tagStart
  let value ← inside
  let after ← tagEnd
  return (⟨before, after⟩, value)

def wordTag (text : String) : Phrase Trims := Prod.fst <$> tag (mark text)

/-- A text that is not empty. -/
def textNode : Phrase Node := fun source =>
  match untilTag source with
  | ([], _) => none
  | (text, rest) => some (.text (String.ofList text), rest)

/-- The text before the first place where a phrase fits, and what the phrase reads there. -/
def untilPhrase (phrase : Phrase α) : List Char → Option ((List Char × α) × List Char)
  | [] => (phrase []).map fun (value, rest) => (([], value), rest)
  | c :: source =>
    match phrase (c :: source) with
    | some (value, rest) => some (([], value), rest)
    | none => (untilPhrase phrase source).map fun ((text, value), rest) =>
        ((c :: text, value), rest)

/-- A comment, which ends at the first place where it may and is not empty. -/
def commentNode : Phrase Node := do
  let before ← bracket "\x7b#-" "\x7b#"
  let (text, after) ← untilPhrase (bracket "-#\x7d" "#\x7d")
  if text.isEmpty then failure else return .comment ⟨before, after⟩

def printNode (nested : Nested) : Phrase Node := do
  let before ← lexeme (bracket "\x7b\x7b-" "\x7b\x7b")
  let value ← nested.whole
  let after ← bracket "-\x7d\x7d" "\x7d\x7d"
  return .print ⟨before, after⟩ value

def assignNode (nested : Nested) : Phrase Node := do
  let (trims, target, value) ← tag do
    word "set"
    let target ← lexeme name
    mark "="
    return (target, ← nested.whole)
  return .assign trims target value

def rawNode : Phrase Node := do
  let first ← wordTag "raw"
  let (text, last) ← untilPhrase (wordTag "endraw")
  return .raw first (String.ofList text) last

/-- A tag with a condition after a word, and the nodes after it. -/
def arm (nested : Nested) (nodes : Phrase (List Node)) (text : String) :
    Phrase (Trims × Expr × List Node) := do
  let (trims, condition) ← tag (word text *> nested.condition)
  return (trims, condition, ← nodes)

def branchNode (nested : Nested) (nodes : Phrase (List Node)) : Phrase Node := do
  let first ← arm nested nodes "if"
  let more ← many (arm nested nodes "elif")
  let otherwise? ← optional? do
    let trims ← wordTag "else"
    return (trims, ← nodes)
  let last ← wordTag "endif"
  return .branch (first :: more) otherwise? last

/-- The names of a loop: one for the values, or one for the keys and one for the values. -/
def loopNames : Phrase (Option String × String) := do
  let first ← name
  let second ← optional? (mark "," *> name)
  return match second with
    | some value => (some first, value)
    | none => (none, first)

/-- A loop, of whose `else` parts the last one counts. -/
def loopNode (nested : Nested) (nodes : Phrase (List Node)) : Phrase Node := do
  let (first, (key?, value), items) ← tag do
    word "for"
    let names ← loopNames <* spaces1
    word "in"
    return (names, ← nested.filteredArithmetic <|> nested.list)
  let body ← nodes
  let others ← many (wordTag "else" *> nodes)
  let last ← wordTag "endfor"
  return .loop first key? value items body (others.getLast?.getD []) last

/-- Nodes nested to a depth, as many as fit. -/
def nodes (nested : Nested) : (depth : Nat) → Phrase (List Node)
  | 0 => failure
  | depth + 1 =>
    let inner := nodes nested depth
    many (commentNode <|> printNode nested <|> assignNode nested <|> rawNode
      <|> branchNode nested inner <|> loopNode nested inner <|> textNode)

/-- A whole sheet; the comments that it starts with trim nothing. -/
def sheet (depth : Nat) : Phrase (List Node) :=
  many commentNode *> nodes (Nested.ofDepth depth) depth <* ended

def parse? (source : String) : Option (List Stmt) :=
  (sheet (source.length + 1) source.toList).map fun (nodes, _) =>
    statements true false false nodes

end Templating.Sheet
