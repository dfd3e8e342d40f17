import Templating.Text.CaseTable
import Templating.Text.Ranges

/-! Upper and lower case of text, character by character; only a capital sigma looks at its
neighbours. -/

namespace Templating.Text

namespace CaseRun

def map? (run : CaseRun) (n : Nat) : Option Nat :=
  if run.first ≤ n ∧ n ≤ run.last ∧ (n - run.first) % run.step = 0 then
    some ((n : Int) + run.distance).toNat
  else none

end CaseRun

/-- The case mapping of a character that its tables give. -/
def mapCase (runs : List CaseRun) (texts : List (Nat × List Nat)) (c : Char) : List Char :=
  match texts.lookup c.toNat with
  | some text => text.map Char.ofNat
  | none => [((runs.findSome? (·.map? c.toNat)).map Char.ofNat).getD c]

def upperChar (c : Char) : List Char :=
  if c.toNat < 0x80 then [c.toUpper] else mapCase CaseTable.upperRuns CaseTable.upperTexts c

def lowerChar (c : Char) : List Char :=
  if c.toNat < 0x80 then [c.toLower] else mapCase CaseTable.lowerRuns CaseTable.lowerTexts c

def isCased (c : Char) : Bool :=
  if c.toNat < 0x80 then c.isAlpha else inRanges CaseTable.casedRanges c.toNat

/-- Whether the search for a neighbour with a case passes over a character. -/
def isCaseIgnored (c : Char) : Bool :=
  if c.toNat < 0x80 then c ∈ ['\'', '.', ':', '^', '\x60']
  else inRanges CaseTable.ignoredRanges c.toNat

/-- Whether the next character with a part in case, in reading order, has a case. -/
def meetsCased (text : List Char) : Bool :=
  match text.find? (!isCaseIgnored ·) with
  | some c => isCased c
  | none => false

/-- Lower case after the characters `before`, the latest first: a capital sigma at the end of a
word becomes the final sigma. -/
def lowerFrom (before : List Char) : List Char → List Char
  | [] => []
  | c :: rest =>
    let mapped :=
      if c.toNat = 0x3A3 then
        [if meetsCased before && !meetsCased rest then Char.ofNat 0x3C2 else Char.ofNat 0x3C3]
      else lowerChar c
    mapped ++ lowerFrom (c :: before) rest

def upper (text : String) : String := String.ofList (text.toList.flatMap upperChar)

def lower (text : String) : String := String.ofList (lowerFrom [] text.toList)

end Templating.Text
