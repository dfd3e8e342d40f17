import Templating.Pattern.Reader
import Templating.Proofs.Text.Trim
import Templating.Proofs.Text.Utf8

/-! The grammar of patterns, said without the reader: a source falls into lexemes from left to
right, where doubled braces are taken first. The reader's tokens are what the lexemes stand for, and
reading goes through a seam between two texts unless the seam joins two closing braces. -/

namespace Templating.Pattern

/-- The slot that a text without white space at its ends spells. -/
inductive Spells : Slot → List Char → Prop where
  | next : Spells .next []
  | index {digits : List Char} (nonempty : digits ≠ []) (decimal : ∀ c ∈ digits, c.isDigit)
      (fits : digitsValue digits < Nat.pow 2 64) : Spells (.index (digitsValue digits)) digits
  | signed {digits : List Char} (nonempty : digits ≠ []) (decimal : ∀ c ∈ digits, c.isDigit)
      (fits : digitsValue digits < Nat.pow 2 64) :
      Spells (.index (digitsValue digits)) ('+' :: digits)

/-- A part of a source, as it is written. -/
inductive Lexeme where
  /-- A doubled opening brace. -/
  | opening
  /-- A doubled closing brace. -/
  | closing
  | plain (c : Char)
  /-- A slot, with what stands between its braces. -/
  | slot (body : List Char) (slot : Slot)

def Lexeme.isSlot : Lexeme → Bool
  | .slot _ _ => true
  | _ => false

/-- What a lexeme stands for. -/
def Lexeme.token : Lexeme → Token
  | .opening => .char '\x7b'
  | .closing => .char '\x7d'
  | .plain c => .char c
  | .slot _ place => .slot place

/-- A source that reads as lexemes from left to right. A closing brace stands alone only where no
second one follows. -/
inductive Reads : List Char → List Lexeme → Prop where
  | done : Reads [] []
  | opening {rest lexemes} : Reads rest lexemes →
      Reads ('\x7b' :: '\x7b' :: rest) (.opening :: lexemes)
  | closing {rest lexemes} : Reads rest lexemes →
      Reads ('\x7d' :: '\x7d' :: rest) (.closing :: lexemes)
  | plain {c rest lexemes} : c ≠ '\x7b' → (c = '\x7d' → rest.head? ≠ some '\x7d') →
      Reads rest lexemes → Reads (c :: rest) (.plain c :: lexemes)
  | slot {body core slot rest lexemes} : '\x7d' ∉ body → body.head? ≠ some '\x7b' →
      Trims isBlank body core → Spells slot core → Reads rest lexemes →
      Reads ('\x7b' :: (body ++ '\x7d' :: rest)) (.slot body slot :: lexemes)

/-! ### Slots -/

theorem digits?_eq_some_iff {text : List Char} {n : Nat} : digits? text = some n ↔
    text ≠ [] ∧ (∀ c ∈ text, c.isDigit) ∧ digitsValue text = n := by
  unfold digits?
  by_cases he : text = []
  · simp [he]
  · by_cases hd : text.all Char.isDigit
    · simpa [he, hd] using fun _ => List.all_eq_true.mp hd
    · simpa [he, hd] using fun h => absurd (List.all_eq_true.mpr h) hd

theorem index?_digits?_eq_some_iff {digits : List Char} {slot : Slot} :
    (digits? digits).bind slot?.index? = some slot ↔
      digits ≠ [] ∧ (∀ c ∈ digits, c.isDigit) ∧ digitsValue digits < Nat.pow 2 64 ∧
        slot = .index (digitsValue digits) := by
  simp only [Option.bind_eq_some_iff, digits?_eq_some_iff, slot?.index?]
  constructor
  · rintro ⟨_, ⟨hne, hd, rfl⟩, h⟩
    split at h
    · cases h
      exact ⟨hne, hd, ‹_›, rfl⟩
    · cases h
  · rintro ⟨hne, hd, hf, rfl⟩
    exact ⟨_, ⟨hne, hd, rfl⟩, by rw [if_pos hf]⟩

theorem slot?_eq_some_iff {core : List Char} {slot : Slot} :
    slot? core = some slot ↔ Spells slot core := by
  constructor
  · intro h
    unfold slot? at h
    split at h
    · cases h
      exact .next
    · obtain ⟨hne, hd, hf, rfl⟩ := index?_digits?_eq_some_iff.mp h
      exact .signed hne hd hf
    · obtain ⟨hne, hd, hf, rfl⟩ := index?_digits?_eq_some_iff.mp h
      exact .index hne hd hf
  · intro h
    cases h with
    | next => rfl
    | signed nonempty decimal fits =>
      exact index?_digits?_eq_some_iff.mpr ⟨nonempty, decimal, fits, rfl⟩
    | index nonempty decimal fits =>
      -- A plus sign is no digit, so the digits are not taken for a signed index.
      unfold slot?
      split
      · exact absurd rfl nonempty
      · exact absurd (decimal '+' List.mem_cons_self) (by decide)
      · exact index?_digits?_eq_some_iff.mpr ⟨nonempty, decimal, fits, rfl⟩

/-! ### Bodies -/

theorem body?_append {body : List Char} (h : '\x7d' ∉ body) (rest : List Char) :
    body? (body ++ '\x7d' :: rest) = some (body, rest) := by
  induction body with
  | nil => rfl
  | cons c body ih =>
    rw [List.mem_cons, not_or] at h
    rw [List.cons_append, body?.eq_3 _ _ (Ne.symm h.1), ih h.2]
    rfl

theorem body?_eq_none {text : List Char} (h : '\x7d' ∉ text) : body? text = none := by
  induction text with
  | nil => rfl
  | cons c rest ih =>
    rw [List.mem_cons, not_or] at h
    rw [body?.eq_3 _ _ (Ne.symm h.1), ih h.2]
    rfl

/-! ### The reader on each kind of lexeme -/

section Equations

variable {rest body : List Char} {c : Char}

/-- The reader's own form of a text that does not begin with a character. -/
theorem forall_ne_cons (h : rest.head? ≠ some c) (tail : List Char) (ht : rest = c :: tail) :
    False := by
  rw [ht] at h
  exact h rfl

theorem tokens_opening (offset : Nat) (rest : List Char) :
    tokens offset ('\x7b' :: '\x7b' :: rest) =
      (Token.char '\x7b' :: ·) <$> tokens (offset + 2) rest := by
  rw [tokens]

theorem tokens_closing (offset : Nat) (rest : List Char) :
    tokens offset ('\x7d' :: '\x7d' :: rest) =
      (Token.char '\x7d' :: ·) <$> tokens (offset + 2) rest := by
  rw [tokens]

theorem tokens_plain (offset : Nat) (hc : c ≠ '\x7b')
    (hg : c = '\x7d' → rest.head? ≠ some '\x7d') :
    tokens offset (c :: rest) = (Token.char c :: ·) <$> tokens (offset + c.utf8Size) rest := by
  rw [tokens]
  · exact fun _ h _ => hc h
  · exact fun tail h => forall_ne_cons (hg h) tail
  · exact hc

theorem tokens_unclosed (offset : Nat) (ho : rest.head? ≠ some '\x7b') (hb : '\x7d' ∉ rest) :
    tokens offset ('\x7b' :: rest) = .error (.unclosedPlaceholder offset) := by
  rw [tokens.eq_4 _ _ (forall_ne_cons ho)]
  split
  · rfl
  · rename_i h
    rw [body?_eq_none hb] at h
    cases h

theorem tokens_slot (offset : Nat) (hb : '\x7d' ∉ body) (ho : body.head? ≠ some '\x7b') :
    tokens offset ('\x7b' :: (body ++ '\x7d' :: rest)) =
      match slot? (trimBlank body) with
      | none => .error (.invalidPlaceholder (String.ofList (trimBlank body)))
      | some slot => (Token.slot slot :: ·) <$> tokens (offset + octets body + 2) rest := by
  have ho' : (body ++ '\x7d' :: rest).head? ≠ some '\x7b' := by
    cases body with
    | nil => simp
    | cons c tail => exact ho
  rw [tokens.eq_4 _ _ (forall_ne_cons ho')]
  split
  · rename_i h
    rw [body?_append hb] at h
    cases h
  · rename_i h
    rw [body?_append hb] at h
    cases h
    rfl

end Equations

/-- A source is empty, or begins with a lexeme, with an opening brace that is never closed, or with
braces around something. -/
theorem source_induction {motive : List Char → Prop} (nil : motive [])
    (opening : ∀ rest, motive rest → motive ('\x7b' :: '\x7b' :: rest))
    (closing : ∀ rest, motive rest → motive ('\x7d' :: '\x7d' :: rest))
    (plain : ∀ c rest, c ≠ '\x7b' → (c = '\x7d' → rest.head? ≠ some '\x7d') → motive rest →
      motive (c :: rest))
    (unclosed : ∀ rest, rest.head? ≠ some '\x7b' → '\x7d' ∉ rest → motive ('\x7b' :: rest))
    (slot : ∀ body rest, '\x7d' ∉ body → body.head? ≠ some '\x7b' → motive rest →
      motive ('\x7b' :: (body ++ '\x7d' :: rest)))
    (source : List Char) : motive source := by
  induction hn : source.length using Nat.strongRecOn generalizing source with
  | ind n ih =>
  subst hn
  match source with
  | [] => exact nil
  | c :: rest =>
    by_cases hc : c = '\x7b'
    · subst hc
      by_cases ho : rest.head? = some '\x7b'
      · obtain ⟨tail, rfl⟩ := List.head?_eq_some_iff.mp ho
        have shorter : tail.length < ('\x7b' :: '\x7b' :: tail).length := by
          rw [List.length_cons, List.length_cons]
          omega
        exact opening tail (ih _ shorter tail rfl)
      · by_cases hb : '\x7d' ∈ rest
        · obtain ⟨body, after, rfl, hbody⟩ := List.eq_append_cons_of_mem hb
          have shorter : after.length < ('\x7b' :: (body ++ '\x7d' :: after)).length := by
            rw [List.length_cons, List.length_append, List.length_cons]
            omega
          refine slot body after hbody (fun h => ho ?_) (ih _ shorter after rfl)
          rw [List.head?_append, h]
          rfl
        · exact unclosed rest ho hb
    · by_cases hg : c = '\x7d' ∧ rest.head? = some '\x7d'
      · obtain ⟨rfl, hr⟩ := hg
        obtain ⟨tail, rfl⟩ := List.head?_eq_some_iff.mp hr
        have shorter : tail.length < ('\x7d' :: '\x7d' :: tail).length := by
          rw [List.length_cons, List.length_cons]
          omega
        exact closing tail (ih _ shorter tail rfl)
      · have shorter : rest.length < (c :: rest).length := by
          rw [List.length_cons]
          omega
        exact plain c rest hc (fun h hr => hg ⟨h, hr⟩) (ih _ shorter rest rfl)

/-! ### Reading and the reader -/

theorem tokens_of_reads {source : List Char} {lexemes : List Lexeme} (h : Reads source lexemes)
    (offset : Nat) : tokens offset source = .ok (lexemes.map Lexeme.token) := by
  induction h generalizing offset with
  | done => rw [tokens]; rfl
  | opening _ ih => rw [tokens_opening, ih]; rfl
  | closing _ ih => rw [tokens_closing, ih]; rfl
  | plain hc hg _ ih => rw [tokens_plain offset hc hg, ih]; rfl
  | slot hb ho ht hs _ ih =>
    rw [tokens_slot offset hb ho, trimBlank, trims_iff.mp ht, slot?_eq_some_iff.mpr hs]
    simp only [ih]
    rfl

/-- The reader accepts only what the grammar does. -/
theorem reads_of_tokens {source : List Char} {offset : Nat} {found : List Token}
    (h : tokens offset source = .ok found) :
    ∃ lexemes, Reads source lexemes ∧ lexemes.map Lexeme.token = found := by
  induction source using source_induction generalizing offset found with
  | nil =>
    rw [tokens] at h
    cases h
    exact ⟨[], .done, rfl⟩
  | opening rest ih =>
    rw [tokens_opening] at h
    obtain ⟨_, hrest, rfl⟩ := map_eq_ok_iff.mp h
    obtain ⟨lexemes, hr, rfl⟩ := ih hrest
    exact ⟨_, .opening hr, rfl⟩
  | closing rest ih =>
    rw [tokens_closing] at h
    obtain ⟨_, hrest, rfl⟩ := map_eq_ok_iff.mp h
    obtain ⟨lexemes, hr, rfl⟩ := ih hrest
    exact ⟨_, .closing hr, rfl⟩
  | plain c rest hc hg ih =>
    rw [tokens_plain offset hc hg] at h
    obtain ⟨_, hrest, rfl⟩ := map_eq_ok_iff.mp h
    obtain ⟨lexemes, hr, rfl⟩ := ih hrest
    exact ⟨_, .plain hc hg hr, rfl⟩
  | unclosed rest ho hb =>
    rw [tokens_unclosed offset ho hb] at h
    cases h
  | slot body rest hb ho ih =>
    rw [tokens_slot offset hb ho] at h
    split at h
    · cases h
    · rename_i slot hs
      obtain ⟨_, hrest, rfl⟩ := map_eq_ok_iff.mp h
      obtain ⟨lexemes, hr, rfl⟩ := ih hrest
      exact ⟨_, .slot hb ho (trimOf_trims isBlank body) (slot?_eq_some_iff.mp hs) hr, rfl⟩

/-! ### Seams -/

/-- A seam that does not join two closing braces. -/
def Seam (before after : List Char) : Prop :=
  before.getLast? = some '\x7d' → after.head? ≠ some '\x7d'

theorem Seam.of_append (first : List Char) {before after : List Char}
    (h : Seam (first ++ before) after) : Seam before after :=
  fun hl => h (by rw [List.getLast?_append, hl]; rfl)

theorem octets_append (before after : List Char) :
    octets (before ++ after) = octets before + octets after := by
  induction before with
  | nil => rw [List.nil_append, octets, Nat.zero_add]
  | cons c before ih => rw [List.cons_append, octets, octets, ih, Nat.add_assoc]

theorem octets_opening (rest : List Char) :
    octets ('\x7b' :: '\x7b' :: rest) = 2 + octets rest := by
  simp only [octets, ← Nat.add_assoc]
  rfl

theorem octets_closing (rest : List Char) :
    octets ('\x7d' :: '\x7d' :: rest) = 2 + octets rest := by
  simp only [octets, ← Nat.add_assoc]
  rfl

theorem octets_slot (body rest : List Char) :
    octets ('\x7b' :: (body ++ '\x7d' :: rest)) = octets body + 2 + octets rest := by
  simp only [octets, octets_append]
  rw [show ('\x7b' : Char).utf8Size = 1 from rfl, show ('\x7d' : Char).utf8Size = 1 from rfl]
  omega

/-- A closing brace stands alone before a seam as it does at the end of the text. -/
theorem Seam.greedy {c : Char} {rest after : List Char} (h : Seam (c :: rest) after)
    (hg : c = '\x7d' → rest.head? ≠ some '\x7d') :
    c = '\x7d' → (rest ++ after).head? ≠ some '\x7d' := by
  intro hc
  cases rest with
  | nil => exact h (by rw [hc]; rfl)
  | cons d rest => exact hg hc

/-- Reading goes through a seam: past a text that reads, the reader goes on with the rest. -/
theorem tokens_append {before after : List Char} {lexemes : List Lexeme}
    (h : Reads before lexemes) (seam : Seam before after) (offset : Nat) :
    tokens offset (before ++ after) =
      (lexemes.map Lexeme.token ++ ·) <$> tokens (offset + octets before) after := by
  induction h generalizing offset with
  | done => simp [octets]
  | opening _ ih =>
    rw [List.cons_append, List.cons_append, tokens_opening,
      ih (Seam.of_append ['\x7b', '\x7b'] seam), Functor.map_map, octets_opening, Nat.add_assoc]
    rfl
  | closing _ ih =>
    rw [List.cons_append, List.cons_append, tokens_closing,
      ih (Seam.of_append ['\x7d', '\x7d'] seam), Functor.map_map, octets_closing, Nat.add_assoc]
    rfl
  | @plain c rest _ hc hg _ ih =>
    rw [List.cons_append, tokens_plain offset hc (seam.greedy hg),
      ih (Seam.of_append [c] seam), Functor.map_map, octets, Nat.add_assoc]
    rfl
  | @slot body _ _ rest _ hb ho ht hs _ ih =>
    have seam' : Seam rest after :=
      Seam.of_append ('\x7b' :: (body ++ ['\x7d'])) (by simpa using seam)
    rw [List.cons_append, List.append_assoc, List.cons_append, tokens_slot offset hb ho, trimBlank,
      trims_iff.mp ht, slot?_eq_some_iff.mpr hs]
    have hsum : offset + octets body + 2 + octets rest =
        offset + (octets body + 2 + octets rest) := by
      omega
    simp only [ih seam', Functor.map_map, octets_slot, hsum]
    rfl

end Templating.Pattern
