import Mathlib.Data.List.Chain
import Templating.Pattern.Printer
import Templating.Proofs.Pattern.Faults

/-! Printing and reading patterns. The segments that the reader gives are those in canonical form,
and the source that is printed for them reads as them again, also where braces of neighbouring
segments touch. -/

namespace Templating.Pattern

/-- Segments whose literals have text and are kept apart by slots, with indices below 2 ^ 64. -/
structure Canonical (segments : List Segment) : Prop where
  nonempty : .literal "" ∉ segments
  apart : segments.IsChain fun first second => first.isSlot ∨ second.isSlot
  bounded : ∀ n, .slot (.index n) ∈ segments → n < Nat.pow 2 64

/-- What a segment gives the reader. -/
def segmentTokens : Segment → List Token
  | .literal text => text.toList.map .char
  | .slot slot => [.slot slot]

/-- A token as a source writes it. -/
def Token.source : Token → List Char
  | .char c => escapeChar c
  | .slot place => place.text.toList

/-- The lexeme that stands for a token where it is printed. -/
def Token.lexeme : Token → Lexeme
  | .char c => if c = '\x7b' then .opening else if c = '\x7d' then .closing else .plain c
  | .slot .next => .slot [] .next
  | .slot (.index n) => .slot (toString n).toList (.index n)

/-- Tokens whose indices a slot can have. -/
def Bounded (found : List Token) : Prop := ∀ n, .slot (.index n) ∈ found → n < Nat.pow 2 64

theorem Bounded.tail {token : Token} {rest : List Token} (h : Bounded (token :: rest)) :
    Bounded rest :=
  fun n hn => h n (List.mem_cons_of_mem _ hn)

variable {segments : List Segment}

/-! ### Printed tokens -/

section Plain

variable {c : Char}

theorem source_plain (ho : c ≠ '\x7b') (hc : c ≠ '\x7d') : (Token.char c).source = [c] := by
  rw [Token.source, escapeChar, if_neg (not_or.mpr ⟨ho, hc⟩)]

theorem lexeme_plain (ho : c ≠ '\x7b') (hc : c ≠ '\x7d') : (Token.char c).lexeme = .plain c := by
  rw [Token.lexeme, if_neg ho, if_neg hc]

end Plain

theorem token_lexeme (token : Token) : token.lexeme.token = token := by
  match token with
  | .slot .next => rfl
  | .slot (.index n) => rfl
  | .char c =>
    by_cases ho : c = '\x7b'
    · rw [ho]
      rfl
    · by_cases hc : c = '\x7d'
      · rw [hc]
        rfl
      · rw [lexeme_plain ho hc]
        rfl

theorem toList_print (segments : List Segment) :
    (print segments).toList = (segments.flatMap segmentTokens).flatMap Token.source := by
  induction segments with
  | nil => rfl
  | cons segment rest ih =>
    have first : (segmentText segment).toList = (segmentTokens segment).flatMap Token.source := by
      cases segment with
      | literal text => simp [segmentText, segmentTokens, escape, List.flatMap_map, Token.source]
      | slot slot => simp [segmentText, segmentTokens, Token.source]
    rw [print, String.toList_join, List.map_cons, List.flatMap_cons, List.flatMap_cons,
      List.flatMap_append, first, ← ih, print, String.toList_join]

theorem toList_indexText (n : Nat) :
    (Slot.index n).text.toList = '\x7b' :: ((toString n).toList ++ '\x7d' :: []) := by
  simp [Slot.text]

theorem spells_toString {n : Nat} (h : n < Nat.pow 2 64) :
    Spells (.index n) (toString n).toList := by
  have spelled := Spells.index (toString_ne_nil n) (fun c hc => isDigit_toString hc)
    (by rwa [digitsValue_toString])
  rwa [digitsValue_toString] at spelled

theorem not_isBlank_of_isDigit {c : Char} (h : c.isDigit) : ¬isBlank c := by
  have bounds : 48 ≤ c.toNat ∧ c.toNat ≤ 57 := Char.isDigit_iff_toNat.mp h
  simp only [isBlank, Bool.or_eq_true, Bool.and_eq_true, decide_eq_true_eq, beq_iff_eq]
  omega

/-- Digits have no white space at their ends. -/
theorem trims_digits {digits : List Char} (h : ∀ c ∈ digits, c.isDigit) :
    Trims isBlank digits digits where
  parts := ⟨[], [], by simp⟩
  first c hc := not_isBlank_of_isDigit (h c (List.mem_of_mem_head? hc))
  last c hc := not_isBlank_of_isDigit (h c (List.mem_of_mem_getLast? hc))

/-- Tokens that are printed one after another read as themselves, whatever stands next to what. -/
theorem reads_tokens {found : List Token} (h : Bounded found) :
    Reads (found.flatMap Token.source) (found.map Token.lexeme) := by
  induction found with
  | nil => exact .done
  | cons token rest ih =>
    have reads := ih h.tail
    rw [List.flatMap_cons, List.map_cons]
    match token with
    | .char c =>
      by_cases ho : c = '\x7b'
      · subst ho
        exact .opening reads
      · by_cases hc : c = '\x7d'
        · subst hc
          exact .closing reads
        · rw [source_plain ho hc, lexeme_plain ho hc]
          exact .plain ho (fun h => absurd h hc) reads
    | .slot .next =>
      have body : '\x7d' ∉ ([] : List Char) ∧ ([] : List Char).head? ≠ some '\x7b' := by simp
      exact .slot body.1 body.2 (trims_iff.mpr rfl) .next reads
    | .slot (.index n) =>
      have decimal : ∀ c ∈ (toString n).toList, c.isDigit := fun c hc => isDigit_toString hc
      rw [Token.source, toList_indexText, List.cons_append, List.append_assoc]
      refine .slot (fun hc => absurd (decimal _ hc) (by decide)) (fun ho => ?_)
        (trims_digits decimal) (spells_toString (h n List.mem_cons_self)) reads
      exact absurd (decimal _ (List.mem_of_mem_head? ho)) (by decide)

theorem tokens_printed {found : List Token} (h : Bounded found) :
    tokens 0 (found.flatMap Token.source) = .ok found := by
  rw [tokens_of_reads (reads_tokens h), List.map_map]
  have same : Lexeme.token ∘ Token.lexeme = id := funext token_lexeme
  rw [same, List.map_id]

/-! ### Canonical segments -/

namespace Canonical

variable {segment : Segment} {rest : List Segment}

theorem tail (h : Canonical (segment :: rest)) : Canonical rest where
  nonempty hm := h.nonempty (List.mem_cons_of_mem _ hm)
  apart := h.apart.tail
  bounded n hn := h.bounded n (List.mem_cons_of_mem _ hn)

theorem after_literal {text : String} (h : Canonical (.literal text :: rest)) :
    ∀ second ∈ rest.head?, second.isSlot := by
  intro second hs
  obtain ⟨_, rfl⟩ := List.head?_eq_some_iff.mp hs
  exact (List.isChain_cons_cons.mp h.apart).1.resolve_left (by simp [Segment.isSlot])

theorem nil : Canonical [] where
  nonempty := List.not_mem_nil
  apart := .nil
  bounded _ hn := absurd hn List.not_mem_nil

theorem slot {place : Slot} (hb : ∀ n, place = .index n → n < Nat.pow 2 64) (h : Canonical rest) :
    Canonical (.slot place :: rest) where
  nonempty := by simpa using h.nonempty
  apart := by
    cases rest with
    | nil => exact .singleton _
    | cons second rest => exact .cons_cons (.inl rfl) h.apart
  bounded n hn := by
    rcases List.mem_cons.mp hn with hp | hr
    · cases hp
      exact hb n rfl
    · exact h.bounded n hr

theorem literal {text : String} (ht : text ≠ "")
    (hs : ∀ second ∈ rest.head?, second.isSlot) (h : Canonical rest) :
    Canonical (.literal text :: rest) where
  nonempty := by simpa [ht.symm] using h.nonempty
  apart := by
    cases rest with
    | nil => exact .singleton _
    | cons second rest => exact .cons_cons (.inr (hs second rfl)) h.apart
  bounded n hn := by
    rcases List.mem_cons.mp hn with hp | hr
    · cases hp
    · exact h.bounded n hr

end Canonical

theorem literal_of_text {text : String} (h : text ≠ "") :
    literal text.toList.reverse = [.literal text] := by
  rw [literal, if_neg (by simpa using h), List.reverse_reverse, String.ofList_toList]

/-- The literal of what has been read keeps segments canonical that begin with a slot. -/
theorem canonical_literal_append (read : List Char)
    (hs : ∀ first ∈ segments.head?, first.isSlot) (h : Canonical segments) :
    Canonical (literal read ++ segments) := by
  unfold literal
  by_cases hr : read = []
  · rw [hr]
    exact h
  · rw [if_neg (by simpa using hr)]
    refine .literal (fun he => hr ?_) hs h
    simpa using String.ofList_eq_empty_iff.mp he

theorem gather_chars (read chars : List Char) (rest : List Token) :
    gather read (chars.map .char ++ rest) = gather (chars.reverse ++ read) rest := by
  induction chars generalizing read with
  | nil => rfl
  | cons c chars ih =>
    rw [List.map_cons, List.cons_append, gather, ih, List.reverse_cons, List.append_assoc]
    rfl

/-- Characters that have been read stay a literal of their own before segments that begin with a
slot. -/
theorem gather_segments (h : Canonical segments) (read : List Char)
    (hs : read ≠ [] → ∀ first ∈ segments.head?, first.isSlot) :
    gather read (segments.flatMap segmentTokens) = literal read ++ segments := by
  induction segments generalizing read with
  | nil => simp [gather]
  | cons segment rest ih =>
    rw [List.flatMap_cons]
    cases segment with
    | slot place =>
      rw [segmentTokens, List.cons_append, List.nil_append, gather, ih h.tail [] (by simp)]
      rfl
    | literal text =>
      have empty : read = [] := by
        by_contra hr
        exact absurd (hs hr _ rfl) (by simp [Segment.isSlot])
      have text_ne : text ≠ "" := by
        rintro rfl
        exact h.nonempty List.mem_cons_self
      rw [empty, segmentTokens, gather_chars, List.append_nil, ih h.tail _ fun _ => h.after_literal,
        literal_of_text text_ne]
      rfl

/-- Gathered segments are canonical. -/
theorem canonical_gather (read : List Char) {found : List Token} (h : Bounded found) :
    Canonical (gather read found) := by
  fun_induction gather read found with
  | case1 read =>
    rw [← List.append_nil (literal read)]
    exact canonical_literal_append read (by simp) .nil
  | case2 read c rest ih => exact ih h.tail
  | case3 read place rest ih =>
    refine canonical_literal_append read (fun first hf => ?_) ((ih h.tail).slot fun n hn => h n ?_)
    · cases hf
      rfl
    · rw [hn]
      exact List.mem_cons_self

/-! ### Round trips -/

theorem Spells.bounded {core : List Char} {n : Nat} (h : Spells (.index n) core) :
    n < Nat.pow 2 64 := by
  cases h <;> assumption

theorem Reads.bounded {source : List Char} {lexemes : List Lexeme} (h : Reads source lexemes) :
    Bounded (lexemes.map Lexeme.token) := by
  intro n hn
  induction h with
  | done => cases hn
  | opening _ ih | closing _ ih | plain _ _ _ ih =>
    rcases List.mem_cons.mp hn with he | hr
    · cases he
    · exact ih hr
  | slot _ _ _ hs _ ih =>
    rcases List.mem_cons.mp hn with he | hr
    · cases he
      exact hs.bounded
    · exact ih hr

theorem bounded_segmentTokens (h : Canonical segments) :
    Bounded (segments.flatMap segmentTokens) := by
  intro n hn
  obtain ⟨segment, hs, ht⟩ := List.mem_flatMap.mp hn
  cases segment with
  | literal text => simp [segmentTokens] at ht
  | slot place =>
    rw [segmentTokens, List.mem_singleton] at ht
    cases ht
    exact h.bounded n hs

theorem parse_print (h : Canonical segments) : parse (print segments) = .ok ⟨segments⟩ := by
  rw [parse, toList_print, tokens_printed (bounded_segmentTokens h)]
  simp only [Functor.map, Except.map, gather_segments h [] (by simp)]
  rfl

theorem canonical_of_parse {source : String} {pattern : Pattern}
    (h : parse source = .ok pattern) : Canonical pattern.segments := by
  obtain ⟨lexemes, hr, rfl⟩ := parse_eq_ok_iff.mp h
  exact canonical_gather [] hr.bounded

/-- The segments of a text that stands for itself. -/
theorem canonical_text (text : String) :
    ∃ segments, Canonical segments ∧ print segments = escape text ∧
      segments.countP Segment.isSlot = 0 ∧
      ∀ arguments, formatFrom arguments 0 segments = text := by
  by_cases h : text = ""
  · exact ⟨[], .nil, by rw [h]; rfl, rfl, fun _ => by rw [h]; rfl⟩
  · refine ⟨[.literal text], .literal h (by simp) .nil, ?_, rfl, fun arguments => ?_⟩
    · simp [print, segmentText]
    · simp [formatFrom]

/-- Canonical segments are read back from their print, and every source that reads has canonical
segments, which its print gives again. An escaped text is a pattern without places that stands for
the text whatever the arguments. -/
theorem print_parse_round_trip :
    (∀ segments, Canonical segments → parse (print segments) = .ok ⟨segments⟩) ∧
    (∀ source pattern, parse source = .ok pattern →
      Canonical pattern.segments ∧ parse (print pattern.segments) = .ok pattern) ∧
    ∀ text, ∃ pattern, parse (escape text) = .ok pattern ∧ pattern.slotCount = 0 ∧
      ∀ arguments, pattern.format arguments = text := by
  refine ⟨fun _ => parse_print, fun source pattern h => ?_, fun text => ?_⟩
  · have canonical := canonical_of_parse h
    exact ⟨canonical, parse_print canonical⟩
  · obtain ⟨segments, canonical, hp, hc, hf⟩ := canonical_text text
    refine ⟨⟨segments⟩, ?_, hc, hf⟩
    rw [← hp]
    exact parse_print canonical

/-- Braces that touch. -/
theorem touching_braces_round_trip :
    print [.literal "\x7b", .slot .next, .literal "\x7d", .slot (.index 0)] =
        "\x7b\x7b\x7b\x7d\x7d\x7d\x7b0\x7d" ∧
      parse "\x7b\x7b\x7b\x7d\x7d\x7d\x7b0\x7d" =
        .ok ⟨[.literal "\x7b", .slot .next, .literal "\x7d", .slot (.index 0)]⟩ := by
  have printed : print [.literal "\x7b", .slot .next, .literal "\x7d", .slot (.index 0)] =
      "\x7b\x7b\x7b\x7d\x7d\x7d\x7b0\x7d" := by decide
  refine ⟨printed, ?_⟩
  rw [← printed]
  exact print_parse_round_trip.1 _ (.literal (by decide) (by simp [Segment.isSlot]) <|
    .slot (by simp) <| .literal (by decide) (by simp [Segment.isSlot]) <| .slot (by simp) .nil)

end Templating.Pattern
