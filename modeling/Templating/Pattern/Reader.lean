import Templating.Fault
import Templating.Number.Digits
import Templating.Pattern.Basic
import Templating.Text.Blank

/-! Reading patterns. A source is read from left to right as tokens: a doubled brace, any other
character that opens nothing, or a slot from `{` to the next `}`. -/

namespace Templating.Pattern

/-- A part of a source. -/
inductive Token where
  | char (c : Char)
  | slot (slot : Slot)
  deriving DecidableEq, Repr

def Token.isSlot : Token → Bool
  | slot _ => true
  | char _ => false

/-- The slot that a body without white space at its ends stands for: nothing, or an index below
2 ^ 64 that a plus sign may precede. -/
def slot? (body : List Char) : Option Slot :=
  match body with
  | [] => some .next
  | '+' :: digits => (digits? digits).bind index?
  | digits => (digits? digits).bind index?
where
  index? (n : Nat) : Option Slot := if n < Nat.pow 2 64 then some (.index n) else none

/-- The body of a slot and what follows its closing brace. -/
def body? : List Char → Option (List Char × List Char)
  | [] => none
  | '\x7d' :: rest => some ([], rest)
  | c :: rest => (body? rest).map fun (body, after) => (c :: body, after)

theorem length_body? {text body after : List Char} (h : body? text = some (body, after)) :
    after.length < text.length := by
  induction text generalizing body with
  | nil => simp [body?] at h
  | cons c rest ih =>
    unfold body? at h
    split at h
    · simp at h
    · simp_all
    · rename_i heq
      simp only [List.cons.injEq] at heq
      obtain ⟨rfl, rfl⟩ := heq
      simp only [Option.map_eq_some_iff] at h
      obtain ⟨⟨b, a⟩, hb, hab⟩ := h
      simp only [Prod.mk.injEq] at hab
      obtain ⟨-, rfl⟩ := hab
      have := ih hb
      simp; omega

/-- The number of octets of a text. -/
def octets : List Char → Nat
  | [] => 0
  | c :: rest => c.utf8Size + octets rest

/-- Reads tokens from a place `offset` octets after the start of the source. -/
def tokens (offset : Nat) (source : List Char) : Except SourceFault (List Token) :=
  match source with
  | [] => .ok []
  | '\x7b' :: '\x7b' :: rest => (.char '\x7b' :: ·) <$> tokens (offset + 2) rest
  | '\x7d' :: '\x7d' :: rest => (.char '\x7d' :: ·) <$> tokens (offset + 2) rest
  | '\x7b' :: rest =>
    match _h : body? rest with
    | none => .error (.unclosedPlaceholder offset)
    | some (body, after) =>
      match slot? (trimBlank body) with
      | none => .error (.invalidPlaceholder (String.ofList (trimBlank body)))
      | some slot => (.slot slot :: ·) <$> tokens (offset + octets body + 2) after
  | c :: rest => (.char c :: ·) <$> tokens (offset + c.utf8Size) rest
termination_by source.length
decreasing_by
  · simp only [List.length_cons]; omega
  · simp only [List.length_cons]; omega
  · have := length_body? _h; simp only [List.length_cons]; omega
  · simp only [List.length_cons]; omega

/-- The literal of characters that have been read, the last one first, if there are any. -/
def literal (read : List Char) : List Segment :=
  if read.isEmpty then [] else [.literal (String.ofList read.reverse)]

/-- Gathers the characters of tokens into literals, after characters that have been read, the last
one first. -/
def gather (read : List Char) : List Token → List Segment
  | [] => literal read
  | .char c :: rest => gather (c :: read) rest
  | .slot slot :: rest => literal read ++ .slot slot :: gather [] rest

def parse (source : String) : Except SourceFault Pattern :=
  (fun tokens => ⟨gather [] tokens⟩) <$> tokens 0 source.toList

end Templating.Pattern
