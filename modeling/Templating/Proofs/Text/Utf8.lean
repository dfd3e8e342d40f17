import Templating.Text.Utf8

/-! Reading UTF-8 undoes writing it, and only that: octets read as a text exactly where they are the
octets of that text. A first octet and the range of the octet after it leave the numbers that are
characters and have no shorter form. -/

namespace Templating

section Result

theorem bind_eq_ok {first : Except ε α} {next : α → Except ε β} {result : β} :
    (first >>= next) = .ok result ↔ ∃ value, first = .ok value ∧ next value = .ok result := by
  cases first with
  | error fault => simp [bind, Except.bind]
  | ok value => simp [bind, Except.bind]

variable {f : α → β} {result : Except ε α}

theorem map_eq_ok_iff {value : β} :
    f <$> result = .ok value ↔ ∃ first, result = .ok first ∧ f first = value := by
  cases result <;> simp [Functor.map, Except.map]

theorem map_eq_error_iff {fault : ε} : f <$> result = .error fault ↔ result = .error fault := by
  cases result <;> simp [Functor.map, Except.map]

end Result

namespace Utf8

theorem scalar_ranges (c : Char) :
    c.toNat < 0xD800 ∨ 0xE000 ≤ c.toNat ∧ c.toNat < 0x110000 := by
  have h : c.toNat < 0xD800 ∨ 0xDFFF < c.toNat ∧ c.toNat < 0x110000 := c.valid
  omega

theorem toNat_ofNat_of_scalar {n : Nat} (h : n < 0xD800 ∨ 0xE000 ≤ n ∧ n < 0x110000) :
    (Char.ofNat n).toNat = n := by
  have valid : n.isValidChar := by
    unfold Nat.isValidChar
    omega
  rw [Char.ofNat, dif_pos valid]
  rfl

section Writing

variable {c : Char}

theorem utf8EncodeChar_of_lt (h : c.toNat < 0x80) :
    String.utf8EncodeChar c = [UInt8.ofNat c.toNat] := by
  have one : c.val.toNat ≤ 0x7f := Nat.le_of_lt_succ h
  simp only [String.utf8EncodeChar, if_pos one, Char.toNat]

theorem utf8EncodeChar_of_two (low : 0x80 ≤ c.toNat) (high : c.toNat < 0x800) :
    String.utf8EncodeChar c =
      [UInt8.ofNat (c.toNat / 64 + 0xC0), UInt8.ofNat (c.toNat % 64 + 0x80)] := by
  have one : ¬c.val.toNat ≤ 0x7f := Nat.not_le_of_lt low
  have two : c.val.toNat ≤ 0x7ff := Nat.le_of_lt_succ high
  have first : c.toNat / 64 % 0x20 = c.toNat / 64 := Nat.mod_eq_of_lt (by omega)
  unfold Char.toNat at *
  simp only [String.utf8EncodeChar, if_neg one, if_pos two, first]

theorem utf8EncodeChar_of_three (low : 0x800 ≤ c.toNat) (high : c.toNat < 0x10000) :
    String.utf8EncodeChar c =
      [UInt8.ofNat (c.toNat / 4096 + 0xE0), UInt8.ofNat (c.toNat / 64 % 64 + 0x80),
        UInt8.ofNat (c.toNat % 64 + 0x80)] := by
  have one : ¬c.val.toNat ≤ 0x7f := fun le => absurd low (by unfold Char.toNat; omega)
  have two : ¬c.val.toNat ≤ 0x7ff := Nat.not_le_of_lt low
  have three : c.val.toNat ≤ 0xffff := Nat.le_of_lt_succ high
  have first : c.toNat / 4096 % 0x10 = c.toNat / 4096 := Nat.mod_eq_of_lt (by omega)
  unfold Char.toNat at *
  simp only [String.utf8EncodeChar, if_neg one, if_neg two, if_pos three, first]

theorem utf8EncodeChar_of_four (low : 0x10000 ≤ c.toNat) :
    String.utf8EncodeChar c =
      [UInt8.ofNat (c.toNat / 262144 + 0xF0), UInt8.ofNat (c.toNat / 4096 % 64 + 0x80),
        UInt8.ofNat (c.toNat / 64 % 64 + 0x80), UInt8.ofNat (c.toNat % 64 + 0x80)] := by
  have one : ¬c.val.toNat ≤ 0x7f := fun le => absurd low (by unfold Char.toNat; omega)
  have two : ¬c.val.toNat ≤ 0x7ff := fun le => absurd low (by unfold Char.toNat; omega)
  have three : ¬c.val.toNat ≤ 0xffff := Nat.not_le_of_lt low
  have first : c.toNat / 262144 % 0x08 = c.toNat / 262144 :=
    Nat.mod_eq_of_lt (by have := scalar_ranges c; omega)
  unfold Char.toNat at *
  simp only [String.utf8EncodeChar, if_neg one, if_neg two, if_neg three, first]

end Writing

section Octet

theorem toNat_octet {number : Nat} (h : number < 256) : (UInt8.ofNat number).toNat = number := by
  rw [UInt8.toNat_ofNat', Nat.mod_eq_of_lt h]

theorem toNat_of_octet {number : Nat} {octet : UInt8} (h : UInt8.ofNat number = octet)
    (small : number < 256) : octet.toNat = number := by
  rw [← h, toNat_octet small]

theorem octet_of_toNat (octet : UInt8) {number : Nat} (h : octet.toNat = number) :
    UInt8.ofNat number = octet := by
  rw [← h, UInt8.ofNat_toNat]

/-- The octet of six bits of a number, as it follows a first octet. -/
theorem toNat_follower (bits : Nat) : (UInt8.ofNat (bits % 64 + 0x80)).toNat = bits % 64 + 0x80 :=
  toNat_octet (by omega)

end Octet

section Lead

variable {octet : Nat}

theorem lead?_of_lt (h : octet < 0x80) : lead? octet = some (octet, []) := if_pos h

theorem lead?_of_two (low : 0xC2 ≤ octet) (high : octet < 0xE0) :
    lead? octet = some (octet - 0xC0, [(0x80, 0xBF)]) := by
  unfold lead?
  rw [if_neg (by omega), if_neg (by omega), if_pos high]

/-- The second of three octets is in the range that leaves out surrogates and numbers with a shorter
form. -/
theorem lead?_of_three (low : 0xE0 ≤ octet) (high : octet < 0xF0) :
    ∃ least most, lead? octet = some (octet - 0xE0, [(least, most), (0x80, 0xBF)]) ∧
      ∀ second, (least ≤ second ∧ second ≤ most) ↔
        (0x80 ≤ second ∧ second ≤ 0xBF) ∧
          0x800 ≤ (octet - 0xE0) * 4096 + (second - 0x80) * 64 ∧
          ((octet - 0xE0) * 4096 + (second - 0x80) * 64 < 0xD800 ∨
            0xE000 ≤ (octet - 0xE0) * 4096 + (second - 0x80) * 64) := by
  unfold lead?
  rw [if_neg (by omega), if_neg (by omega), if_neg (by omega)]
  by_cases first : octet = 0xE0
  · subst first
    exact ⟨0xA0, 0xBF, rfl, by omega⟩
  · by_cases surrogate : octet = 0xED
    · subst surrogate
      exact ⟨0x80, 0x9F, rfl, by omega⟩
    · rw [if_neg first, if_neg surrogate, if_pos high]
      exact ⟨0x80, 0xBF, rfl, by omega⟩

/-- The second of four octets is in the range that leaves out numbers with a shorter form and
numbers beyond the last character. -/
theorem lead?_of_four (low : 0xF0 ≤ octet) (high : octet < 0xF5) :
    ∃ least most,
      lead? octet = some (octet - 0xF0, [(least, most), (0x80, 0xBF), (0x80, 0xBF)]) ∧
      ∀ second, (least ≤ second ∧ second ≤ most) ↔
        (0x80 ≤ second ∧ second ≤ 0xBF) ∧
          0x10000 ≤ (octet - 0xF0) * 262144 + (second - 0x80) * 4096 ∧
          (octet - 0xF0) * 262144 + (second - 0x80) * 4096 < 0x110000 := by
  unfold lead?
  rw [if_neg (by omega), if_neg (by omega), if_neg (by omega), if_neg (by omega),
    if_neg (by omega), if_neg (by omega)]
  by_cases first : octet = 0xF0
  · subst first
    exact ⟨0x90, 0xBF, rfl, by omega⟩
  · by_cases last : octet = 0xF4
    · subst last
      exact ⟨0x80, 0x8F, rfl, by omega⟩
    · rw [if_neg first, if_pos (by omega)]
      exact ⟨0x80, 0xBF, rfl, by omega⟩

theorem lead?_ranges (h : lead? octet ≠ none) :
    octet < 0x80 ∨ (0xC2 ≤ octet ∧ octet < 0xE0) ∨ (0xE0 ≤ octet ∧ octet < 0xF0) ∨
      (0xF0 ≤ octet ∧ octet < 0xF5) := by
  refine Decidable.byContradiction fun outside => h ?_
  unfold lead?
  by_cases low : octet < 0xC2
  · rw [if_neg (by omega), if_pos low]
  · rw [if_neg (by omega), if_neg low, if_neg (by omega), if_neg (by omega), if_neg (by omega),
      if_neg (by omega), if_neg (by omega), if_neg (by omega), if_neg (by omega)]

end Lead

namespace Piece

variable {seen value size : Nat} {c : Char} {octet : UInt8} {rest : Bytes}

theorem continue_nil_eq_char :
    Piece.continue seen value [] rest = .char c size ↔ Char.ofNat value = c ∧ seen = size := by
  simp only [Piece.continue, Piece.char.injEq]

theorem continue_cons_eq_char {low high : Nat} {ranges : List (Nat × Nat)} :
    Piece.continue seen value ((low, high) :: ranges) rest = .char c size ↔
      ∃ next more, rest = next :: more ∧ (low ≤ next.toNat ∧ next.toNat ≤ high) ∧
        Piece.continue (seen + 1) (value * 64 + (next.toNat - 0x80)) ranges more =
          .char c size := by
  constructor
  · intro h
    cases rest with
    | nil => cases h
    | cons next more =>
      rw [Piece.continue] at h
      split at h
      · next within => exact ⟨next, more, rfl, within, h⟩
      · cases h
  · rintro ⟨next, more, rfl, within, h⟩
    rw [Piece.continue, if_pos within]
    exact h

theorem read_eq_char_of_lead {ranges : List (Nat × Nat)}
    (lead : lead? octet.toNat = some (value, ranges)) :
    read octet rest = .char c size ↔ Piece.continue 1 value ranges rest = .char c size := by
  rw [read, lead]

theorem read_one (h : octet.toNat < 0x80) :
    read octet rest = .char c size ↔ Char.ofNat octet.toNat = c ∧ 1 = size := by
  rw [read_eq_char_of_lead (lead?_of_lt h), continue_nil_eq_char]

theorem read_two (low : 0xC2 ≤ octet.toNat) (high : octet.toNat < 0xE0) :
    read octet rest = .char c size ↔
      ∃ last more, rest = last :: more ∧ (0x80 ≤ last.toNat ∧ last.toNat ≤ 0xBF) ∧
        Char.ofNat ((octet.toNat - 0xC0) * 64 + (last.toNat - 0x80)) = c ∧ 2 = size := by
  rw [read_eq_char_of_lead (lead?_of_two low high), continue_cons_eq_char]
  simp only [continue_nil_eq_char]

theorem read_three (low : 0xE0 ≤ octet.toNat) (high : octet.toNat < 0xF0) :
    read octet rest = .char c size ↔
      ∃ second last more, rest = second :: last :: more ∧
        (0x80 ≤ second.toNat ∧ second.toNat ≤ 0xBF) ∧ (0x80 ≤ last.toNat ∧ last.toNat ≤ 0xBF) ∧
        (0x800 ≤ (octet.toNat - 0xE0) * 4096 + (second.toNat - 0x80) * 64 ∧
          ((octet.toNat - 0xE0) * 4096 + (second.toNat - 0x80) * 64 < 0xD800 ∨
            0xE000 ≤ (octet.toNat - 0xE0) * 4096 + (second.toNat - 0x80) * 64)) ∧
        Char.ofNat (((octet.toNat - 0xE0) * 64 + (second.toNat - 0x80)) * 64 +
          (last.toNat - 0x80)) = c ∧ 3 = size := by
  obtain ⟨least, most, lead, range⟩ := lead?_of_three low high
  rw [read_eq_char_of_lead lead, continue_cons_eq_char]
  simp only [continue_cons_eq_char, continue_nil_eq_char, range]
  constructor
  · rintro ⟨second, _, rfl, ⟨tail, scalar⟩, last, more, rfl, range, number, size⟩
    exact ⟨second, last, more, rfl, tail, range, scalar, number, size⟩
  · rintro ⟨second, last, more, rfl, tail, range, scalar, number, size⟩
    exact ⟨second, _, rfl, ⟨tail, scalar⟩, last, more, rfl, range, number, size⟩

theorem read_four (low : 0xF0 ≤ octet.toNat) (high : octet.toNat < 0xF5) :
    read octet rest = .char c size ↔
      ∃ second third last more, rest = second :: third :: last :: more ∧
        (0x80 ≤ second.toNat ∧ second.toNat ≤ 0xBF) ∧
        (0x80 ≤ third.toNat ∧ third.toNat ≤ 0xBF) ∧ (0x80 ≤ last.toNat ∧ last.toNat ≤ 0xBF) ∧
        (0x10000 ≤ (octet.toNat - 0xF0) * 262144 + (second.toNat - 0x80) * 4096 ∧
          (octet.toNat - 0xF0) * 262144 + (second.toNat - 0x80) * 4096 < 0x110000) ∧
        Char.ofNat ((((octet.toNat - 0xF0) * 64 + (second.toNat - 0x80)) * 64 +
          (third.toNat - 0x80)) * 64 + (last.toNat - 0x80)) = c ∧ 4 = size := by
  obtain ⟨least, most, lead, range⟩ := lead?_of_four low high
  rw [read_eq_char_of_lead lead, continue_cons_eq_char]
  simp only [continue_cons_eq_char, continue_nil_eq_char, range]
  constructor
  · rintro ⟨second, _, rfl, ⟨tail, scalar⟩, third, _, rfl, middle, last, more, rfl, range, number,
      size⟩
    exact ⟨second, third, last, more, rfl, tail, middle, range, scalar, number, size⟩
  · rintro ⟨second, third, last, more, rfl, tail, middle, range, scalar, number, size⟩
    exact ⟨second, _, rfl, ⟨tail, scalar⟩, third, _, rfl, middle, last, more, rfl, range, number,
      size⟩

theorem read_encodeChar {tail : Bytes} (h : String.utf8EncodeChar c = octet :: tail)
    (rest : Bytes) : read octet (tail ++ rest) = .char c (tail.length + 1) := by
  have scalar := scalar_ranges c
  -- How many octets a character takes, and so what its first one is, depends on its number alone.
  by_cases one : c.toNat < 0x80
  · rw [utf8EncodeChar_of_lt one] at h
    obtain ⟨first, rfl⟩ := List.cons.inj h
    have first := toNat_of_octet first (by omega)
    rw [read_one (by omega), first]
    exact ⟨c.ofNat_toNat, rfl⟩
  by_cases two : c.toNat < 0x800
  · rw [utf8EncodeChar_of_two (by omega) two] at h
    obtain ⟨first, rfl⟩ := List.cons.inj h
    have first := toNat_of_octet first (by omega)
    have last := toNat_follower c.toNat
    refine (read_two (by omega) (by omega)).mpr ⟨_, rest, rfl, by omega, ?_, rfl⟩
    have number : (octet.toNat - 0xC0) * 64 + (c.toNat % 64 + 0x80 - 0x80) = c.toNat := by omega
    rw [last, number, c.ofNat_toNat]
  by_cases three : c.toNat < 0x10000
  · rw [utf8EncodeChar_of_three (by omega) three] at h
    obtain ⟨first, rfl⟩ := List.cons.inj h
    have first := toNat_of_octet first (by omega)
    have second := toNat_follower (c.toNat / 64)
    have last := toNat_follower c.toNat
    refine (read_three (by omega) (by omega)).mpr
      ⟨_, _, rest, rfl, by omega, by omega, by rw [second]; omega, ?_, rfl⟩
    have number : ((octet.toNat - 0xE0) * 64 + (c.toNat / 64 % 64 + 0x80 - 0x80)) * 64 +
        (c.toNat % 64 + 0x80 - 0x80) = c.toNat := by omega
    rw [second, last, number, c.ofNat_toNat]
  · rw [utf8EncodeChar_of_four (by omega)] at h
    obtain ⟨first, rfl⟩ := List.cons.inj h
    have first := toNat_of_octet first (by omega)
    have second := toNat_follower (c.toNat / 4096)
    have third := toNat_follower (c.toNat / 64)
    have last := toNat_follower c.toNat
    refine (read_four (by omega) (by omega)).mpr
      ⟨_, _, _, rest, rfl, by omega, by omega, by omega, by rw [second]; omega, ?_, rfl⟩
    have number : (((octet.toNat - 0xF0) * 64 + (c.toNat / 4096 % 64 + 0x80 - 0x80)) * 64 +
        (c.toNat / 64 % 64 + 0x80 - 0x80)) * 64 + (c.toNat % 64 + 0x80 - 0x80) = c.toNat := by
      omega
    rw [second, third, last, number, c.ofNat_toNat]

/-- What reads as a character is the octets of that character. -/
theorem encodeChar_of_read (h : read octet rest = .char c size) :
    ∃ tail more, rest = tail ++ more ∧ String.utf8EncodeChar c = octet :: tail ∧
      size = tail.length + 1 := by
  have lead : lead? octet.toNat ≠ none := by
    intro none
    rw [read, none] at h
    cases h
  rcases lead?_ranges lead with one | ⟨low, high⟩ | ⟨low, high⟩ | ⟨low, high⟩
  · obtain ⟨rfl, rfl⟩ := (read_one one).mp h
    have number := toNat_ofNat_of_scalar (n := octet.toNat) (by omega)
    refine ⟨[], rest, rfl, ?_, rfl⟩
    rw [utf8EncodeChar_of_lt (by omega), octet_of_toNat octet number.symm]
  · obtain ⟨last, more, rfl, range, rfl, rfl⟩ := (read_two low high).mp h
    have number := toNat_ofNat_of_scalar
      (n := (octet.toNat - 0xC0) * 64 + (last.toNat - 0x80)) (by omega)
    refine ⟨[last], more, rfl, ?_, rfl⟩
    rw [utf8EncodeChar_of_two (by omega) (by omega), octet_of_toNat octet (by omega),
      octet_of_toNat last (by omega)]
  · obtain ⟨second, last, more, rfl, tail, range, scalar, rfl, rfl⟩ := (read_three low high).mp h
    have number := toNat_ofNat_of_scalar (n := ((octet.toNat - 0xE0) * 64 +
      (second.toNat - 0x80)) * 64 + (last.toNat - 0x80)) (by omega)
    refine ⟨[second, last], more, rfl, ?_, rfl⟩
    rw [utf8EncodeChar_of_three (by omega) (by omega), octet_of_toNat octet (by omega),
      octet_of_toNat second (by omega), octet_of_toNat last (by omega)]
  · obtain ⟨second, third, last, more, rfl, tail, middle, range, scalar, rfl, rfl⟩ :=
      (read_four low high).mp h
    have number := toNat_ofNat_of_scalar (n := (((octet.toNat - 0xF0) * 64 +
      (second.toNat - 0x80)) * 64 + (third.toNat - 0x80)) * 64 + (last.toNat - 0x80)) (by omega)
    refine ⟨[second, third, last], more, rfl, ?_, rfl⟩
    rw [utf8EncodeChar_of_four (by omega), octet_of_toNat octet (by omega),
      octet_of_toNat second (by omega), octet_of_toNat third (by omega),
      octet_of_toNat last (by omega)]

end Piece

/-- The octets of a character that is already read are passed over. -/
theorem decodeFrom_skip (index : Nat) (seen rest : Bytes) :
    decodeFrom index seen.length (seen ++ rest) = decodeFrom (index + seen.length) 0 rest := by
  induction seen generalizing index with
  | nil => rfl
  | cons octet seen ih =>
    rw [List.length_cons, List.cons_append, decodeFrom, ih]
    congr 1
    omega

theorem decodeFrom_encodeChar (index : Nat) (c : Char) (rest : Bytes) :
    decodeFrom index 0 (String.utf8EncodeChar c ++ rest) =
      (c :: ·) <$> decodeFrom (index + (String.utf8EncodeChar c).length) 0 rest := by
  cases h : String.utf8EncodeChar c with
  | nil => exact absurd h String.utf8EncodeChar_ne_nil
  | cons octet tail =>
    rw [List.cons_append, decodeFrom, Piece.read_encodeChar h]
    simp only [Nat.add_sub_cancel, decodeFrom_skip, List.length_cons]
    congr 2
    omega

theorem decodeFrom_flatMap (index : Nat) (chars : List Char) :
    decodeFrom index 0 (chars.flatMap String.utf8EncodeChar) = .ok chars := by
  induction chars generalizing index with
  | nil => rfl
  | cons c chars ih =>
    rw [List.flatMap_cons, decodeFrom_encodeChar, ih]
    rfl

theorem decode_encode (text : String) : decode (encode text) = .ok text := by
  rw [decode, encode, decodeFrom_flatMap]
  exact congrArg Except.ok text.ofList_toList

/-- Octets that read as characters are the octets of these, by induction on how many they are: each
character takes at least one. -/
theorem flatMap_of_decodeFrom {bytes : Bytes} {index : Nat} {chars : List Char}
    (h : decodeFrom index 0 bytes = .ok chars) :
    bytes = chars.flatMap String.utf8EncodeChar := by
  induction size : bytes.length using Nat.strongRecOn generalizing bytes index chars with
  | ind count ih =>
    cases bytes with
    | nil =>
      cases h
      rfl
    | cons octet rest =>
      rw [decodeFrom] at h
      split at h
      · next c size read =>
        obtain ⟨tail, more, rfl, octets, rfl⟩ := Piece.encodeChar_of_read read
        rw [Nat.add_sub_cancel, decodeFrom_skip] at h
        obtain ⟨rest, others, rfl⟩ := map_eq_ok_iff.mp h
        have shorter : more.length < count := by
          rw [← size, List.length_cons, List.length_append]
          omega
        rw [List.flatMap_cons, octets, ← ih more.length shorter others rfl]
        rfl
      · cases h
      · cases h

/-- Octets read as a text exactly where they are the octets of that text. -/
theorem decode_eq_ok_iff {bytes : Bytes} {text : String} :
    decode bytes = .ok text ↔ bytes = encode text := by
  constructor
  · intro h
    obtain ⟨chars, found, rfl⟩ := map_eq_ok_iff.mp h
    rw [encode, String.toList_ofList]
    exact flatMap_of_decodeFrom found
  · rintro rfl
    exact decode_encode text

end Utf8

end Templating
