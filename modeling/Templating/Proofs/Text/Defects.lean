import Mathlib.Tactic.SplitIfs
import Templating.Proofs.Text.Utf8

/-! What a defect says of octets. Reading stops behind the longest beginning that is UTF-8. Where the
rest begins a character and ends inside it, the defect is that something is missing; else as many
octets are wrong as could still begin a character, and the first one where none could. -/

namespace Templating.Utf8

/-- The octets of one character, by its number: as few as the number takes, with six bits of it in each
but the first. Surrogates and numbers beyond the last character have none. -/
inductive Sequence : Bytes → Prop where
  | one {n : Nat} (high : n < 0x80) : Sequence [UInt8.ofNat n]
  | two {n : Nat} (low : 0x80 ≤ n) (high : n < 0x800) :
    Sequence [UInt8.ofNat (n / 64 + 0xC0), UInt8.ofNat (n % 64 + 0x80)]
  | three {n : Nat} (low : 0x800 ≤ n) (high : n < 0x10000) (scalar : n < 0xD800 ∨ 0xE000 ≤ n) :
    Sequence [UInt8.ofNat (n / 4096 + 0xE0), UInt8.ofNat (n / 64 % 64 + 0x80),
      UInt8.ofNat (n % 64 + 0x80)]
  | four {n : Nat} (low : 0x10000 ≤ n) (high : n < 0x110000) :
    Sequence [UInt8.ofNat (n / 262144 + 0xF0), UInt8.ofNat (n / 4096 % 64 + 0x80),
      UInt8.ofNat (n / 64 % 64 + 0x80), UInt8.ofNat (n % 64 + 0x80)]

/-- Octets that are characters one after another. -/
inductive WellFormed : Bytes → Prop where
  | nil : WellFormed []
  | append {first rest : Bytes} : Sequence first → WellFormed rest → WellFormed (first ++ rest)

/-- Octets that begin a character and end inside it. -/
def Begins (bytes : Bytes) : Prop := ∃ more, more ≠ [] ∧ Sequence (bytes ++ more)

/-- The length of the longest beginning of octets with a property. -/
structure Longest (property : Bytes → Prop) (bytes : Bytes) (length : Nat) : Prop where
  within : length ≤ bytes.length
  holds : property (bytes.take length)
  most : ∀ other, other <+: bytes → property other → other.length ≤ length

/-! ### Sequences and characters -/

theorem sequence_encodeChar (c : Char) : Sequence (String.utf8EncodeChar c) := by
  have scalar := scalar_ranges c
  by_cases one : c.toNat < 0x80
  · rw [utf8EncodeChar_of_lt one]
    exact .one one
  by_cases two : c.toNat < 0x800
  · rw [utf8EncodeChar_of_two (by omega) two]
    exact .two (by omega) two
  by_cases three : c.toNat < 0x10000
  · rw [utf8EncodeChar_of_three (by omega) three]
    exact .three (by omega) three (by omega)
  · rw [utf8EncodeChar_of_four (by omega)]
    exact .four (by omega) (by omega)

theorem Sequence.exists_char {bytes : Bytes} (h : Sequence bytes) :
    ∃ c, String.utf8EncodeChar c = bytes := by
  cases h with
  | @one n high =>
    have number := toNat_ofNat_of_scalar (n := n) (by omega)
    exact ⟨Char.ofNat n, by rw [utf8EncodeChar_of_lt (by omega), number]⟩
  | @two n low high =>
    have number := toNat_ofNat_of_scalar (n := n) (by omega)
    exact ⟨Char.ofNat n, by rw [utf8EncodeChar_of_two (by omega) (by omega), number]⟩
  | @three n low high scalar =>
    have number := toNat_ofNat_of_scalar (n := n) (by omega)
    exact ⟨Char.ofNat n, by rw [utf8EncodeChar_of_three (by omega) (by omega), number]⟩
  | @four n low high =>
    have number := toNat_ofNat_of_scalar (n := n) (by omega)
    exact ⟨Char.ofNat n, by rw [utf8EncodeChar_of_four (by omega), number]⟩

theorem wellFormed_iff {bytes : Bytes} : WellFormed bytes ↔ ∃ text, bytes = encode text := by
  constructor
  · intro h
    induction h with
    | nil => exact ⟨"", rfl⟩
    | append first _ ih =>
      obtain ⟨c, rfl⟩ := first.exists_char
      obtain ⟨text, rfl⟩ := ih
      exact ⟨String.ofList (c :: text.toList), by simp [encode]⟩
  · rintro ⟨text, rfl⟩
    unfold encode
    induction text.toList with
    | nil => exact .nil
    | cons c rest ih => exact .append (sequence_encodeChar c) ih

theorem begins_nil : Begins [] := ⟨[UInt8.ofNat 0], by simp, .one (by decide)⟩

/-! ### One character -/

namespace Piece

variable {seen value length : Nat} {ranges : List (Nat × Nat)} {octet : UInt8} {rest : Bytes}

/-- Ranges that octets can be in. -/
def Open (ranges : List (Nat × Nat)) : Prop := ∀ range ∈ ranges, range.1 ≤ range.2 ∧ range.1 < 256

theorem open_of_lead {octet : Nat} (lead : lead? octet = some (value, ranges)) :
    Open ranges ∧ ranges.length ≤ 3 := by
  unfold lead? at lead
  unfold Open
  split_ifs at lead
  all_goals
    obtain ⟨-, rfl⟩ := Prod.mk.inj (Option.some.inj lead)
    simp

/-- What ends inside a character can be completed, by the least octets of the ranges that are owed. -/
theorem exists_completion (wide : Open ranges)
    (h : Piece.continue seen value ranges rest = .incomplete) :
    ∃ more c, more ≠ [] ∧ Piece.continue seen value ranges (rest ++ more) =
      .char c (seen + (rest ++ more).length) := by
  induction ranges generalizing seen value rest with
  | nil => cases h
  | cons range ranges ih =>
    obtain ⟨low, high⟩ := range
    obtain ⟨⟨nonempty, small⟩, others⟩ := List.forall_mem_cons.mp wide
    cases rest with
    | cons next rest =>
      rw [Piece.continue] at h
      split at h
      · next within =>
        obtain ⟨more, c, owed, complete⟩ := ih others h
        refine ⟨more, c, owed, ?_⟩
        rw [List.cons_append, Piece.continue, if_pos within, complete, List.length_cons]
        congr 1
        omega
      · cases h
    | nil =>
      have least : (UInt8.ofNat low).toNat = low := toNat_octet small
      have step : ∀ more, Piece.continue seen value ((low, high) :: ranges) (UInt8.ofNat low :: more) =
          Piece.continue (seen + 1) (value * 64 + (low - 0x80)) ranges more := fun more => by
        rw [Piece.continue, least, if_pos ⟨Nat.le_refl low, nonempty⟩]
      cases ranges with
      | nil => exact ⟨[UInt8.ofNat low], _, by simp, step []⟩
      | cons range ranges =>
        have owed : Piece.continue (seen + 1) (value * 64 + (low - 0x80)) (range :: ranges) [] =
            .incomplete := rfl
        obtain ⟨more, c, -, complete⟩ := ih others owed
        refine ⟨UInt8.ofNat low :: more, c, by simp, ?_⟩
        rw [List.nil_append] at complete ⊢
        rw [step, complete, List.length_cons]
        congr 1
        omega

/-- A beginning of what reads as a character ends inside it. -/
theorem continue_of_char {given more : Bytes} {c : Char} (owed : more ≠ [])
    (h : Piece.continue seen value ranges (given ++ more) =
      .char c (seen + (given ++ more).length)) :
    Piece.continue seen value ranges given = .incomplete := by
  induction ranges generalizing seen value given with
  | nil =>
    have whole := (continue_nil_eq_char.mp h).2
    have positive := List.length_pos_iff.mpr owed
    rw [List.length_append] at whole
    omega
  | cons range ranges ih =>
    obtain ⟨low, high⟩ := range
    cases given with
    | nil => rfl
    | cons next given =>
      obtain ⟨_, rest, split, within, later⟩ := continue_cons_eq_char.mp h
      obtain ⟨rfl, rfl⟩ := List.cons.inj split
      rw [Piece.continue, if_pos within]
      refine ih (later.trans ?_)
      rw [List.cons_append, List.length_cons]
      congr 1
      omega

/-- Octets that begin no character with the octet after them are the longest beginning that could. -/
theorem continue_invalid (h : Piece.continue seen value ranges rest = .invalid length) :
    (seen ≤ length ∧ length < seen + ranges.length ∧ length < seen + rest.length) ∧
      ∀ given, given <+: rest →
        (Piece.continue seen value ranges given = .incomplete ↔ seen + given.length ≤ length) := by
  induction ranges generalizing seen value rest with
  | nil => cases h
  | cons range ranges ih =>
    obtain ⟨low, high⟩ := range
    cases rest with
    | nil => cases h
    | cons next rest =>
      rw [Piece.continue] at h
      split at h
      · next within =>
        obtain ⟨⟨least, most, inside⟩, begins⟩ := ih h
        refine ⟨⟨by omega, by rw [List.length_cons]; omega, by rw [List.length_cons]; omega⟩,
          fun given isPrefix => ?_⟩
        cases given with
        | nil => exact ⟨fun _ => by rw [List.length_nil]; omega, fun _ => rfl⟩
        | cons first given =>
          obtain ⟨rfl, shorter⟩ := List.cons_prefix_cons.mp isPrefix
          rw [Piece.continue, if_pos within, begins given shorter, List.length_cons]
          omega
      · next outside =>
        cases h
        refine ⟨⟨Nat.le_refl _, by rw [List.length_cons]; omega, by rw [List.length_cons]; omega⟩,
          fun given isPrefix => ?_⟩
        cases given with
        | nil => exact ⟨fun _ => Nat.le_refl _, fun _ => rfl⟩
        | cons first given =>
          obtain ⟨rfl, -⟩ := List.cons_prefix_cons.mp isPrefix
          rw [Piece.continue, if_neg outside, List.length_cons]
          refine ⟨fun owed => ?_, fun tooLong => by omega⟩
          cases owed

/-- Where more than the first octet is read, that octet begins a character. -/
theorem exists_lead (h : read octet rest ≠ .invalid 1) :
    ∃ value ranges, lead? octet.toNat = some (value, ranges) := by
  cases lead : lead? octet.toNat with
  | none => exact absurd (by simp only [read, lead]) h
  | some found => exact ⟨found.1, found.2, rfl⟩

theorem read_incomplete_iff : read octet rest = .incomplete ↔ Begins (octet :: rest) := by
  constructor
  · intro h
    have goesOn : read octet rest ≠ .invalid 1 := by simp [h]
    obtain ⟨value, ranges, lead⟩ := exists_lead goesOn
    simp only [read, lead] at h
    obtain ⟨more, c, owed, complete⟩ := exists_completion (open_of_lead lead).1 h
    rw [← read_eq_char_of_lead lead] at complete
    obtain ⟨tail, after, split, octets, size⟩ := encodeChar_of_read complete
    have nothing : after = [] := by
      rw [split, List.length_append] at size
      exact List.length_eq_zero_iff.mp (by omega)
    refine ⟨more, owed, ?_⟩
    rw [List.cons_append, split, nothing, List.append_nil, ← octets]
    exact sequence_encodeChar c
  · rintro ⟨more, owed, sequence⟩
    obtain ⟨c, octets⟩ := sequence.exists_char
    rw [List.cons_append] at octets
    have complete := read_encodeChar octets []
    rw [List.append_nil] at complete
    have goesOn : read octet (rest ++ more) ≠ .invalid 1 := by simp [complete]
    obtain ⟨value, ranges, lead⟩ := exists_lead goesOn
    rw [read_eq_char_of_lead lead, Nat.add_comm] at complete
    simp only [read, lead]
    exact continue_of_char owed complete

theorem longest_of_read_invalid (h : read octet rest = .invalid length) :
    length ≤ 3 ∧ ∃ most, Longest Begins (octet :: rest) most ∧ length = max 1 most := by
  cases lead : lead? octet.toNat with
  | none =>
    -- No character begins with the first octet.
    have one : length = 1 := by
      simp only [read, lead] at h
      exact (Piece.invalid.inj h).symm
    refine ⟨by omega, 0, ⟨Nat.zero_le _, begins_nil, fun other isPrefix begins => ?_⟩, by omega⟩
    cases other with
    | nil => exact Nat.le_refl 0
    | cons first other =>
      obtain ⟨rfl, -⟩ := List.cons_prefix_cons.mp isPrefix
      have incomplete := read_incomplete_iff.mpr begins
      simp only [read, lead] at incomplete
      cases incomplete
  | some lead_ =>
    obtain ⟨value, ranges⟩ := lead_
    simp only [read, lead] at h
    obtain ⟨⟨least, most, inside⟩, begins⟩ := continue_invalid h
    have few := (open_of_lead lead).2
    have begins_iff : ∀ given, given <+: rest →
        (Begins (octet :: given) ↔ 1 + given.length ≤ length) := fun given isPrefix => by
      rw [← read_incomplete_iff, ← begins given isPrefix]
      simp only [read, lead]
    refine ⟨by omega, length, ⟨by rw [List.length_cons]; omega, ?_, fun other isPrefix started => ?_⟩,
      by omega⟩
    · obtain ⟨before, rfl⟩ := Nat.exists_eq_add_of_le' least
      rw [List.take_succ_cons, begins_iff _ (List.take_prefix before rest), List.length_take]
      omega
    · cases other with
      | nil => exact Nat.zero_le _
      | cons first other =>
        obtain ⟨rfl, shorter⟩ := List.cons_prefix_cons.mp isPrefix
        have bound := (begins_iff other shorter).mp started
        rw [List.length_cons]
        omega

end Piece

/-! ### Octets -/

theorem decodeFrom_append (index : Nat) (chars : List Char) (rest : Bytes) :
    decodeFrom index 0 (chars.flatMap String.utf8EncodeChar ++ rest) =
      (chars ++ ·) <$>
        decodeFrom (index + (chars.flatMap String.utf8EncodeChar).length) 0 rest := by
  induction chars generalizing index with
  | nil => simp
  | cons c chars ih =>
    rw [List.flatMap_cons, List.append_assoc, decodeFrom_encodeChar, ih, Functor.map_map,
      List.length_append, Nat.add_assoc]
    rfl

theorem le_index_of_decodeFrom {bytes : Bytes} {index skip : Nat} {defect : Defect}
    (h : decodeFrom index skip bytes = .error defect) : index ≤ defect.index := by
  fun_induction decodeFrom index skip bytes with
  | case1 => cases h
  | case2 index skip octet rest ih => exact Nat.le_of_succ_le (ih h)
  | case3 index octet rest value size read ih =>
    exact Nat.le_of_succ_le (ih (map_eq_error_iff.mp h))
  | case4 => cases h; exact Nat.le_refl _
  | case5 => cases h; exact Nat.le_refl _

/-- What a defect at the start of octets says of them. -/
inductive FailsWith (octet : UInt8) (rest : Bytes) (index : Nat) : Defect → Prop where
  | incomplete (h : Piece.read octet rest = .incomplete) :
    FailsWith octet rest index (.incomplete index)
  | invalid {length : Nat} (h : Piece.read octet rest = .invalid length) :
    FailsWith octet rest index (.invalid length index)

/-- A defect stands behind characters, at octets that read as none, by induction on how many octets
there are: each character takes at least one. -/
theorem split_of_decodeFrom {bytes : Bytes} {index : Nat} {defect : Defect}
    (h : decodeFrom index 0 bytes = .error defect) :
    ∃ (chars : List Char) (octet : UInt8) (rest : Bytes),
      bytes = chars.flatMap String.utf8EncodeChar ++ octet :: rest ∧
      FailsWith octet rest (index + (chars.flatMap String.utf8EncodeChar).length) defect := by
  induction size : bytes.length using Nat.strongRecOn generalizing bytes index with
  | ind count ih =>
    cases bytes with
    | nil => cases h
    | cons octet rest =>
      cases read : Piece.read octet rest with
      | incomplete =>
        simp only [decodeFrom, read] at h
        cases h
        exact ⟨[], octet, rest, rfl, .incomplete read⟩
      | invalid length =>
        simp only [decodeFrom, read] at h
        cases h
        exact ⟨[], octet, rest, rfl, .invalid read⟩
      | char c length =>
        obtain ⟨tail, more, rfl, octets, rfl⟩ := Piece.encodeChar_of_read read
        have whole : octet :: (tail ++ more) = String.utf8EncodeChar c ++ more := by
          rw [octets, List.cons_append]
        rw [whole, decodeFrom_encodeChar, map_eq_error_iff] at h
        have shorter : more.length < count := by
          rw [← size, List.length_cons, List.length_append]
          omega
        obtain ⟨chars, octet, rest, rfl, fails⟩ := ih more.length shorter h rfl
        refine ⟨c :: chars, octet, rest, ?_, ?_⟩
        · rw [whole, List.flatMap_cons, List.append_assoc]
        · rwa [List.flatMap_cons, List.length_append, ← Nat.add_assoc]

theorem FailsWith.index_eq {octet : UInt8} {rest : Bytes} {index : Nat} {defect : Defect}
    (h : FailsWith octet rest index defect) : defect.index = index := by
  cases h <;> rfl

/-- Octets that are no text are one as far as the index of their defect and no further. From there on
they begin a character without its end, or as many octets are wrong as could begin one, at least one
and at most three. -/
structure Defect.Describes (defect : Defect) (bytes : Bytes) : Prop where
  text : Longest WellFormed bytes defect.index
  incomplete : Begins (bytes.drop defect.index) → defect = .incomplete defect.index
  invalid : ¬Begins (bytes.drop defect.index) →
    ∃ most, Longest Begins (bytes.drop defect.index) most ∧ max 1 most ≤ 3 ∧
      defect = .invalid (max 1 most) defect.index

theorem describes_of_decode {bytes : Bytes} {defect : Defect} (h : decode bytes = .error defect) :
    defect.Describes bytes := by
  have failed : decodeFrom 0 0 bytes = .error defect := map_eq_error_iff.mp h
  obtain ⟨chars, octet, rest, rfl, fails⟩ := split_of_decodeFrom failed
  rw [Nat.zero_add] at fails
  have index := fails.index_eq
  refine ⟨⟨?_, ?_, fun other isPrefix whole => ?_⟩, ?_, ?_⟩
  · rw [index, List.length_append]
    omega
  · rw [index, List.take_left]
    exact wellFormed_iff.mpr ⟨String.ofList chars, by simp [encode]⟩
  · -- What is a text is passed over, so that the defect stands behind it.
    obtain ⟨text, rfl⟩ := wellFormed_iff.mp whole
    obtain ⟨later, split⟩ := isPrefix
    rw [← split, encode, decodeFrom_append, Nat.zero_add, map_eq_error_iff] at failed
    exact le_index_of_decodeFrom failed
  · rw [index, List.drop_left]
    intro begins
    have incomplete := Piece.read_incomplete_iff.mpr begins
    cases fails with
    | incomplete _ => rfl
    | invalid read => rw [incomplete] at read; cases read
  · rw [index, List.drop_left]
    intro ended
    cases fails with
    | incomplete read => exact absurd (Piece.read_incomplete_iff.mp read) ended
    | invalid read =>
      obtain ⟨few, most, longest, rfl⟩ := Piece.longest_of_read_invalid read
      exact ⟨most, longest, few, rfl⟩

theorem wellFormed_iff_decode {bytes : Bytes} :
    WellFormed bytes ↔ ∃ text, decode bytes = .ok text := by
  simp only [wellFormed_iff, decode_eq_ok_iff]

end Templating.Utf8
