import Templating.Proofs.Number.Digits
import Templating.Proofs.Pattern.Grammar

/-! Which sources are patterns, and what is wrong with the others. A source is rejected at its
leftmost fault: past a text that reads, an opening brace is never closed, or it encloses a body that
spells no slot. -/

namespace Templating.Pattern

/-- What is wrong with an opening brace at `offset`, by the text after it. -/
inductive Faulty (offset : Nat) : List Char → SourceFault → Prop where
  | unclosed {after} : '\x7d' ∉ after → Faulty offset after (.unclosedPlaceholder offset)
  | invalid {body core rest} : '\x7d' ∉ body → Trims isBlank body core →
      (∀ slot, ¬Spells slot core) →
      Faulty offset (body ++ '\x7d' :: rest) (.invalidPlaceholder (String.ofList core))

theorem head?_append_closing {body : List Char} (rest : List Char) :
    (body ++ '\x7d' :: rest).head? = some '\x7b' ↔ body.head? = some '\x7b' := by
  cases body <;> simp

theorem tokens_of_faulty {after : List Char} {offset : Nat} {fault : SourceFault}
    (ho : after.head? ≠ some '\x7b') (h : Faulty offset after fault) :
    tokens offset ('\x7b' :: after) = .error fault := by
  cases h with
  | unclosed hb => exact tokens_unclosed offset ho hb
  | @invalid body core rest hb ht hs =>
    have hnone : slot? (trimBlank body) = none := by
      rw [Option.eq_none_iff_forall_ne_some]
      intro slot h
      rw [trimBlank, trims_iff.mp ht, slot?_eq_some_iff] at h
      exact hs slot h
    rw [tokens_slot offset hb (fun h => ho ((head?_append_closing rest).mpr h)), hnone, trimBlank,
      trims_iff.mp ht]

/-- The reader's fault is that of the first opening brace past a text that reads. -/
theorem faulty_of_tokens {source : List Char} {offset : Nat} {fault : SourceFault}
    (h : tokens offset source = .error fault) :
    ∃ before after lexemes, source = before ++ '\x7b' :: after ∧ Reads before lexemes ∧
      after.head? ≠ some '\x7b' ∧ Faulty (offset + octets before) after fault := by
  induction source using source_induction generalizing offset with
  | nil =>
    rw [tokens] at h
    cases h
  | opening rest ih =>
    rw [tokens_opening, map_eq_error_iff] at h
    obtain ⟨before, after, lexemes, rfl, hr, ho, hf⟩ := ih h
    exact ⟨'\x7b' :: '\x7b' :: before, after, _, rfl, .opening hr, ho,
      by rwa [octets_opening, ← Nat.add_assoc]⟩
  | closing rest ih =>
    rw [tokens_closing, map_eq_error_iff] at h
    obtain ⟨before, after, lexemes, rfl, hr, ho, hf⟩ := ih h
    exact ⟨'\x7d' :: '\x7d' :: before, after, _, rfl, .closing hr, ho,
      by rwa [octets_closing, ← Nat.add_assoc]⟩
  | plain c rest hc hg ih =>
    rw [tokens_plain offset hc hg, map_eq_error_iff] at h
    obtain ⟨before, after, lexemes, rfl, hr, ho, hf⟩ := ih h
    refine ⟨c :: before, after, _, rfl, .plain hc (fun hc => ?_) hr, ho,
      by rwa [octets, ← Nat.add_assoc]⟩
    cases before with
    | nil => simp
    | cons d before => exact hg hc
  | unclosed rest ho hb =>
    rw [tokens_unclosed offset ho hb] at h
    cases h
    exact ⟨[], rest, [], rfl, .done, ho, .unclosed hb⟩
  | slot body rest hb ho ih =>
    rw [tokens_slot offset hb ho] at h
    split at h
    · rename_i hnone
      cases h
      refine ⟨[], body ++ '\x7d' :: rest, [], rfl, .done,
        fun h => ho ((head?_append_closing rest).mp h),
        .invalid hb (trimOf_trims isBlank body) fun slot hs => ?_⟩
      exact absurd (hnone.symm.trans (slot?_eq_some_iff.mpr hs)) (by simp)
    · rename_i slot hs
      rw [map_eq_error_iff] at h
      obtain ⟨before, after, lexemes, rfl, hr, ho', hf⟩ := ih h
      refine ⟨'\x7b' :: (body ++ '\x7d' :: before), after, _, by simp,
        .slot hb ho (trimOf_trims isBlank body) (slot?_eq_some_iff.mp hs) hr, ho', ?_⟩
      have hsum : offset + octets ('\x7b' :: (body ++ '\x7d' :: before)) =
          offset + octets body + 2 + octets before := by
        rw [octets_slot]
        omega
      rw [hsum]
      exact hf

theorem tokens_eq_error_iff {source : List Char} {offset : Nat} {fault : SourceFault} :
    tokens offset source = .error fault ↔
      ∃ before after lexemes, source = before ++ '\x7b' :: after ∧ Reads before lexemes ∧
        after.head? ≠ some '\x7b' ∧ Faulty (offset + octets before) after fault := by
  refine ⟨faulty_of_tokens, ?_⟩
  rintro ⟨before, after, lexemes, rfl, hr, ho, hf⟩
  rw [tokens_append hr (fun _ => by simp), tokens_of_faulty ho hf]
  rfl

/-! ### Parsing -/

theorem parse_eq_ok_iff {source : String} {pattern : Pattern} :
    parse source = .ok pattern ↔ ∃ lexemes, Reads source.toList lexemes ∧
      pattern = ⟨gather [] (lexemes.map Lexeme.token)⟩ := by
  rw [parse, map_eq_ok_iff]
  constructor
  · rintro ⟨found, h, rfl⟩
    obtain ⟨lexemes, hr, rfl⟩ := reads_of_tokens h
    exact ⟨lexemes, hr, rfl⟩
  · rintro ⟨lexemes, hr, rfl⟩
    exact ⟨_, tokens_of_reads hr 0, rfl⟩

theorem exists_parse_iff {source : String} :
    (∃ pattern, parse source = .ok pattern) ↔ ∃ lexemes, Reads source.toList lexemes := by
  simp only [parse_eq_ok_iff]
  constructor
  · rintro ⟨_, lexemes, hr, -⟩
    exact ⟨lexemes, hr⟩
  · rintro ⟨lexemes, hr⟩
    exact ⟨_, lexemes, hr, rfl⟩

theorem countP_literal (read : List Char) : (literal read).countP Segment.isSlot = 0 := by
  unfold literal
  split <;> rfl

theorem countP_gather (read : List Char) (found : List Token) :
    (gather read found).countP Segment.isSlot = found.countP Token.isSlot := by
  fun_induction gather read found with
  | case1 read => exact countP_literal read
  | case2 read c rest ih => simpa [Token.isSlot] using ih
  | case3 read slot rest ih =>
    rw [List.countP_append, countP_literal, List.countP_cons, List.countP_cons, ih, Nat.zero_add]
    rfl

/-- The places of a pattern are the slots of its source. -/
theorem slotCount_eq {source : String} {pattern : Pattern} {lexemes : List Lexeme}
    (h : parse source = .ok pattern) (hr : Reads source.toList lexemes) :
    pattern.slotCount = lexemes.countP Lexeme.isSlot := by
  have found : (fun tokens => (⟨gather [] tokens⟩ : Pattern)) <$> tokens 0 source.toList =
      .ok pattern := h
  rw [tokens_of_reads hr 0] at found
  cases found
  rw [slotCount, countP_gather, List.countP_map]
  congr 1
  funext lexeme
  cases lexeme <;> rfl

theorem octets_toList (text : String) : octets text.toList = text.utf8ByteSize := by
  rw [← String.ofList_toList (s := text), String.toList_ofList]
  induction text.toList with
  | nil => rfl
  | cons c rest ih =>
    rw [octets, String.ofList_cons, String.utf8ByteSize_append, String.utf8ByteSize_singleton,
      ih]

/-- What a source around an opening brace is, as text and as characters. -/
theorem toList_eq_append_iff {source : String} {before after : List Char} :
    source.toList = before ++ '\x7b' :: after ↔
      source = String.ofList before ++ "\x7b" ++ String.ofList after := by
  rw [← String.toList_inj]
  simp

theorem parse_eq_error_iff {source : String} {fault : SourceFault} :
    parse source = .error fault ↔ ∃ before after : String, source = before ++ "\x7b" ++ after ∧
      (∃ pattern, parse before = .ok pattern) ∧ after.toList.head? ≠ some '\x7b' ∧
      Faulty before.utf8ByteSize after.toList fault := by
  rw [parse, map_eq_error_iff, tokens_eq_error_iff]
  simp only [exists_parse_iff]
  constructor
  · rintro ⟨before, after, lexemes, hs, hr, ho, hf⟩
    refine ⟨String.ofList before, String.ofList after, toList_eq_append_iff.mp hs, ⟨lexemes, ?_⟩,
      ?_, ?_⟩
    · rwa [String.toList_ofList]
    · rwa [String.toList_ofList]
    · rwa [← octets_toList, String.toList_ofList, String.toList_ofList,
        ← Nat.zero_add (octets before)]
  · rintro ⟨before, after, rfl, ⟨lexemes, hr⟩, ho, hf⟩
    refine ⟨before.toList, after.toList, lexemes, by simp, hr, ho, ?_⟩
    rwa [octets_toList, Nat.zero_add]

/-! ### Messages -/

/-- A source is rejected with a message. -/
def RejectedWith (source message : String) : Prop :=
  ∃ fault, parse source = .error fault ∧ fault.message = message

theorem unclosed_message_iff {offset position : Nat} :
    (SourceFault.unclosedPlaceholder offset).message =
      "unclosed placeholder at byte " ++ toString position ↔ offset = position := by
  unfold SourceFault.message
  rw [String.append_right_inj, toString_inj]

theorem invalid_message_iff {body core : String} :
    (SourceFault.invalidPlaceholder body).message =
      "invalid placeholder \x60\x7b" ++ core ++ "\x7d\x60" ↔ body = core := by
  unfold SourceFault.message
  rw [String.append_left_inj, String.append_right_inj]

theorem unclosed_message_ne_invalid (offset : Nat) (core : String) :
    (SourceFault.unclosedPlaceholder offset).message ≠
      "invalid placeholder \x60\x7b" ++ core ++ "\x7d\x60" := by
  intro h
  unfold SourceFault.message at h
  have first := congrArg (fun text => text.toList.head?) h
  simp at first

theorem invalid_message_ne_unclosed (body : String) (position : Nat) :
    (SourceFault.invalidPlaceholder body).message ≠
      "unclosed placeholder at byte " ++ toString position := by
  intro h
  unfold SourceFault.message at h
  have first := congrArg (fun text => text.toList.head?) h
  simp at first

/-- A brace that is never closed is reported at its octet. -/
theorem rejectedWith_unclosed_iff {source : String} {position : Nat} :
    RejectedWith source ("unclosed placeholder at byte " ++ toString position) ↔
      ∃ before rest : String, source = before ++ "\x7b" ++ rest ∧
        (∃ pattern, parse before = .ok pattern) ∧ rest.toList.head? ≠ some '\x7b' ∧
        '\x7d' ∉ rest.toList ∧ position = before.utf8ByteSize := by
  constructor
  · rintro ⟨fault, h, hm⟩
    obtain ⟨before, after, hs, hp, ho, hf⟩ := parse_eq_error_iff.mp h
    refine ⟨before, after, hs, hp, ho, ?_⟩
    generalize after.toList = text at hf
    cases hf with
    | unclosed hb => exact ⟨hb, (unclosed_message_iff.mp hm).symm⟩
    | invalid => exact absurd hm (invalid_message_ne_unclosed _ position)
  · rintro ⟨before, rest, hs, hp, ho, hb, rfl⟩
    exact ⟨_, parse_eq_error_iff.mpr ⟨before, rest, hs, hp, ho, .unclosed hb⟩, rfl⟩

/-- Braces around what is no slot are reported with what they enclose. -/
theorem rejectedWith_invalid_iff {source core : String} :
    RejectedWith source ("invalid placeholder \x60\x7b" ++ core ++ "\x7d\x60") ↔
      ∃ before body rest : String, source = before ++ "\x7b" ++ body ++ "\x7d" ++ rest ∧
        (∃ pattern, parse before = .ok pattern) ∧ '\x7d' ∉ body.toList ∧
        body.toList.head? ≠ some '\x7b' ∧ Trims isBlank body.toList core.toList ∧
        ∀ slot, ¬Spells slot core.toList := by
  constructor
  · rintro ⟨fault, h, hm⟩
    obtain ⟨before, after, hs, hp, ho, hf⟩ := parse_eq_error_iff.mp h
    generalize htext : after.toList = text at hf ho
    cases hf with
    | unclosed => exact absurd hm (unclosed_message_ne_invalid _ core)
    | @invalid body trimmed rest hb ht hn =>
      obtain rfl := invalid_message_iff.mp hm
      refine ⟨before, String.ofList body, String.ofList rest, ?_, hp, ?_, ?_, ?_, ?_⟩
      · rw [hs, ← String.toList_inj]
        simp [htext]
      · rwa [String.toList_ofList]
      · rw [String.toList_ofList]
        exact fun h => ho ((head?_append_closing rest).mpr h)
      · rwa [String.toList_ofList, String.toList_ofList]
      · rwa [String.toList_ofList]
  · rintro ⟨before, body, rest, rfl, hp, hb, ho, ht, hn⟩
    have text : (body ++ "\x7d" ++ rest).toList = body.toList ++ '\x7d' :: rest.toList := by simp
    refine ⟨.invalidPlaceholder core, parse_eq_error_iff.mpr
      ⟨before, body ++ "\x7d" ++ rest, by simp only [String.append_assoc], hp, ?_, ?_⟩, rfl⟩
    · rw [text]
      exact fun h => ho ((head?_append_closing rest.toList).mp h)
    · rw [text, ← String.ofList_toList (s := core)]
      exact .invalid hb ht hn

theorem message_of_parse_eq_error {source : String} {fault : SourceFault}
    (h : parse source = .error fault) :
    (∃ position : Nat, fault.message = "unclosed placeholder at byte " ++ toString position) ∨
      ∃ core, fault.message = "invalid placeholder \x60\x7b" ++ core ++ "\x7d\x60" := by
  obtain ⟨before, after, -, -, -, hf⟩ := parse_eq_error_iff.mp h
  generalize after.toList = text at hf
  cases hf with
  | unclosed => exact .inl ⟨_, rfl⟩
  | invalid => exact .inr ⟨_, rfl⟩

/-- A source is a pattern where it reads as lexemes, and each slot among them is a place. Else its
leftmost fault is reported: a brace that is never closed at its octet, and braces around what is no
slot with what they enclose. -/
theorem parse_follows_grammar (source : String) :
    ((∃ pattern, parse source = .ok pattern) ↔ ∃ lexemes, Reads source.toList lexemes) ∧
    (∀ pattern lexemes, parse source = .ok pattern → Reads source.toList lexemes →
      pattern.slotCount = lexemes.countP Lexeme.isSlot) ∧
    (∀ position : Nat,
      RejectedWith source ("unclosed placeholder at byte " ++ toString position) ↔
        ∃ before rest : String, source = before ++ "\x7b" ++ rest ∧
          (∃ pattern, parse before = .ok pattern) ∧ rest.toList.head? ≠ some '\x7b' ∧
          '\x7d' ∉ rest.toList ∧ position = before.utf8ByteSize) ∧
    (∀ core,
      RejectedWith source ("invalid placeholder \x60\x7b" ++ core ++ "\x7d\x60") ↔
        ∃ before body rest : String, source = before ++ "\x7b" ++ body ++ "\x7d" ++ rest ∧
          (∃ pattern, parse before = .ok pattern) ∧ '\x7d' ∉ body.toList ∧
          body.toList.head? ≠ some '\x7b' ∧ Trims isBlank body.toList core.toList ∧
          ∀ slot, ¬Spells slot core.toList) ∧
    ∀ fault, parse source = .error fault →
      (∃ position : Nat, fault.message = "unclosed placeholder at byte " ++ toString position) ∨
        ∃ core, fault.message = "invalid placeholder \x60\x7b" ++ core ++ "\x7d\x60" :=
  ⟨exists_parse_iff, fun _ _ => slotCount_eq, fun _ => rejectedWith_unclosed_iff,
    fun _ => rejectedWith_invalid_iff, fun _ => message_of_parse_eq_error⟩

/-- An escape and a slot after a letter of two octets, and then a brace that is never closed. -/
theorem unclosed_after_slot :
    (∃ pattern, parse "é\x7b\x7b\x7b +7 \x7d" = .ok pattern ∧ pattern.slotCount = 1) ∧
      RejectedWith "é\x7b\x7b\x7b +7 \x7d\x7bx\x7b"
        ("unclosed placeholder at byte " ++ toString 10) := by
  have chars : "é\x7b\x7b\x7b +7 \x7d".toList =
      ['é', '\x7b', '\x7b', '\x7b', ' ', '+', '7', ' ', '\x7d'] := rfl
  have slot : Reads ('\x7b' :: ([' ', '+', '7', ' '] ++ ['\x7d']))
      [.slot [' ', '+', '7', ' '] (.index 7)] :=
    .slot (by decide) (by decide) (trims_iff.mpr rfl) (slot?_eq_some_iff.mp (by decide)) .done
  have reads : Reads "é\x7b\x7b\x7b +7 \x7d".toList
      [.plain 'é', .opening, .slot [' ', '+', '7', ' '] (.index 7)] := by
    rw [chars]
    exact .plain (by decide) (by decide) (.opening slot)
  obtain ⟨accepted, counted, -⟩ := parse_follows_grammar "é\x7b\x7b\x7b +7 \x7d"
  obtain ⟨-, -, unclosed, -⟩ := parse_follows_grammar "é\x7b\x7b\x7b +7 \x7d\x7bx\x7b"
  obtain ⟨pattern, h⟩ := accepted.mpr ⟨_, reads⟩
  exact ⟨⟨pattern, h, counted pattern _ h reads⟩,
    (unclosed 10).mpr ⟨"é\x7b\x7b\x7b +7 \x7d", "x\x7b", rfl, ⟨pattern, h⟩, by decide, by decide,
      rfl⟩⟩

end Templating.Pattern
