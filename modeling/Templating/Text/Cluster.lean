import Templating.Text.ClusterTable
import Templating.Text.Ranges

/-! Visible characters: a character with the marks, tones and joined pictures that belong to it. Where
one ends follows from the classes of the characters before and after the place. -/

namespace Templating.Text

/-- The class of a character. -/
inductive ClusterClass where
  | carriageReturn
  | lineFeed
  | control
  | extension
  | joiner
  | spacing
  | lead
  /-- A letter of a flag, of which two belong together. -/
  | flag
  | tone
  | body
  | person
  | glued
  /-- The parts of Korean syllables, and syllables without and with a last part. -/
  | initial
  | medial
  | final
  | openSyllable
  | closedSyllable
  | other
  deriving DecidableEq, Repr

def clusterClass (n : Nat) : ClusterClass :=
  if n = 0x0D then .carriageReturn
  else if n = 0x0A then .lineFeed
  else if n = 0x200D then .joiner
  else if inRanges ClusterTable.controlRanges n then .control
  else if n < 0x300 then .other
  else if 0xAC00 ≤ n ∧ n ≤ 0xD7A3 then
    if (n - 0xAC00) % 28 = 0 then .openSyllable else .closedSyllable
  else if (0x1100 ≤ n ∧ n ≤ 0x115F) ∨ (0xA960 ≤ n ∧ n ≤ 0xA97C) then .initial
  else if (0x1160 ≤ n ∧ n ≤ 0x11A7) ∨ (0xD7B0 ≤ n ∧ n ≤ 0xD7C6) then .medial
  else if (0x11A8 ≤ n ∧ n ≤ 0x11FF) ∨ (0xD7CB ≤ n ∧ n ≤ 0xD7FB) then .final
  else if 0x1F1E6 ≤ n ∧ n ≤ 0x1F1FF then .flag
  else if 0x1F3FB ≤ n ∧ n ≤ 0x1F3FF then .tone
  else if 0x1F466 ≤ n ∧ n ≤ 0x1F469 then .person
  else if inRanges ClusterTable.extendRanges n then .extension
  else if inRanges ClusterTable.spacingRanges n then .spacing
  else if inRanges ClusterTable.leadRanges n then .lead
  else if inRanges ClusterTable.bodyRanges n then .body
  else if inRanges ClusterTable.gluedRanges n then .glued
  else .other

/-- What is known of the text before a place. -/
structure ClusterState where
  /-- The class of the last character. -/
  last : ClusterClass
  /-- Whether a picture that takes a tone stands before the extensions at the end. -/
  toned : Bool
  /-- Whether an odd number of letters of flags stands at the end. -/
  halfFlag : Bool

namespace ClusterState

/-- What is known after one more character. -/
def next (state : ClusterState) (found : ClusterClass) : ClusterState where
  last := found
  toned := found == .body || found == .person || (found == .extension && state.toned)
  halfFlag := found == .flag && !state.halfFlag

/-- What is known after a first character. -/
def start (found : ClusterClass) : ClusterState := next ⟨.control, false, false⟩ found

/-- Whether a character of a class belongs to the one before it. -/
def joins (state : ClusterState) (found : ClusterClass) : Bool :=
  match state.last, found with
  | .carriageReturn, .lineFeed => true
  | .carriageReturn, _ => false
  | .lineFeed, _ => false
  | .control, _ => false
  | _, .carriageReturn => false
  | _, .lineFeed => false
  | _, .control => false
  | _, .extension => true
  | _, .joiner => true
  | _, .spacing => true
  | .lead, _ => true
  | .initial, found => [.initial, .medial, .openSyllable, .closedSyllable].contains found
  | .openSyllable, found => found == .medial || found == .final
  | .medial, found => found == .medial || found == .final
  | .closedSyllable, found => found == .final
  | .final, found => found == .final
  | .joiner, found => found == .glued || found == .person
  | _, .tone => state.toned
  | _, .flag => state.halfFlag
  | _, _ => false

end ClusterState

/-- The visible characters of a text after `present`, the characters of the present one from last to
first. -/
def clustersFrom (state : ClusterState) (present : List Char) : List Char → List String
  | [] => [String.ofList present.reverse]
  | c :: rest =>
    let found := clusterClass c.toNat
    if state.joins found then clustersFrom (state.next found) (c :: present) rest
    else String.ofList present.reverse :: clustersFrom (state.next found) [c] rest

def clusters (text : String) : List String :=
  match text.toList with
  | [] => []
  | c :: rest => clustersFrom (.start (clusterClass c.toNat)) [c] rest

end Templating.Text
