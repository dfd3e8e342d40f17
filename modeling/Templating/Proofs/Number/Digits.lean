import Mathlib.Data.List.Induction
import Templating.Number.Digits

/-! A number and its decimal text. The text is made of digits, and their value is the number. Digits are
the text of their value where no zero leads them. -/

namespace Templating

theorem digitsValue_toString (n : Nat) : digitsValue (toString n).toList = n := by
  rw [Nat.toString_eq_repr, Nat.toList_repr, digitsValue, digitsFrom]
  simp only [Nat.mul_comm _ 10]
  rw [← Nat.ofDigitChars_eq_foldl, Nat.ofDigitChars_ten_toDigits]

theorem isDigit_toString {n : Nat} {c : Char} (h : c ∈ (toString n).toList) : c.isDigit := by
  rw [Nat.toString_eq_repr, Nat.toList_repr] at h
  exact Nat.isDigit_of_mem_toDigits (by decide) (by decide) h

theorem toString_ne_nil (n : Nat) : (toString n).toList ≠ [] := by
  rw [Nat.toString_eq_repr, Nat.toList_repr]
  exact Nat.toDigits_ne_nil

/-- Different numbers have different texts. -/
theorem toString_inj {m n : Nat} : toString m = toString n ↔ m = n := by
  refine ⟨fun h => ?_, congrArg toString⟩
  rw [← digitsValue_toString m, h, digitsValue_toString]

/-! ### Digits without leading zeros -/

theorem digitsValue_concat (digits : List Char) (c : Char) :
    digitsValue (digits ++ [c]) = digitsValue digits * 10 + (c.toNat - '0'.toNat) := by
  simp only [digitsValue, digitsFrom, List.foldl_append, List.foldl_cons, List.foldl_nil]

theorem lt_ten_of_isDigit {c : Char} (h : c.isDigit) : c.toNat - '0'.toNat < 10 := by
  have bounds : 48 ≤ c.toNat ∧ c.toNat ≤ 57 := Char.isDigit_iff_toNat.mp h
  show c.toNat - 48 < 10
  omega

theorem toString_digit {c : Char} (h : c.isDigit) :
    (toString (c.toNat - '0'.toNat)).toList = [c] := by
  have bounds : 48 ≤ c.toNat ∧ c.toNat ≤ 57 := Char.isDigit_iff_toNat.mp h
  have each : ∀ d < 10, (Nat.digitChar d).toNat = 48 + d := by decide
  rw [Nat.toString_eq_repr, Nat.toList_repr, Nat.toDigits_of_lt_base (lt_ten_of_isDigit h)]
  have same : (Nat.digitChar (c.toNat - '0'.toNat)).toNat = c.toNat := by
    rw [each _ (lt_ten_of_isDigit h)]
    show 48 + (c.toNat - 48) = c.toNat
    omega
  rw [Char.toNat_inj.mp same]

/-- A number that is not zero is written before a further digit. -/
theorem toString_concat {n : Nat} {c : Char} (positive : 0 < n) (h : c.isDigit) :
    (toString (n * 10 + (c.toNat - '0'.toNat))).toList = (toString n).toList ++ [c] := by
  rw [← toString_digit h]
  simp only [Nat.toString_eq_repr, Nat.toList_repr]
  rw [Nat.toDigits_append_toDigits (by decide) positive (lt_ten_of_isDigit h), Nat.mul_comm]

/-- Written again, digits lose the zeros that lead them and nothing else. -/
theorem toString_digitsValue_isSuffix {digits : List Char} (nonempty : digits ≠ [])
    (decimal : ∀ c ∈ digits, c.isDigit) : (toString (digitsValue digits)).toList <:+ digits := by
  induction digits using List.reverseRecOn with
  | nil => exact absurd rfl nonempty
  | append_singleton front c ih =>
    have last : c.isDigit := decimal c (by simp)
    rw [digitsValue_concat]
    rcases Nat.eq_zero_or_pos (digitsValue front) with zero | positive
    · rw [zero, Nat.zero_mul, Nat.zero_add, toString_digit last]
      exact List.suffix_append front [c]
    · have front_ne : front ≠ [] := by
        rintro rfl
        exact absurd positive (by decide)
      obtain ⟨zeros, here⟩ := ih front_ne fun d inFront => decimal d (by simp [inFront])
      refine ⟨zeros, ?_⟩
      rw [toString_concat positive last, ← List.append_assoc, here]

/-- Digits are what their number is written with where no zero leads them. -/
theorem toString_digitsValue_eq_iff {digits : List Char} (nonempty : digits ≠ [])
    (decimal : ∀ c ∈ digits, c.isDigit) :
    (toString (digitsValue digits)).toList = digits ↔
      (digits.head? = some '0' → digits = ['0']) := by
  constructor
  · intro same leads
    obtain ⟨rest, rfl⟩ := List.head?_eq_some_iff.mp leads
    refine Decidable.byContradiction fun more => ?_
    have rest_ne : rest ≠ [] := by
      rintro rfl
      exact more rfl
    -- Without the zero the value is the same, so it is written with fewer digits.
    have shorter := toString_digitsValue_isSuffix rest_ne fun c inRest =>
      decimal c (List.mem_cons_of_mem _ inRest)
    have value : digitsValue rest = digitsValue ('0' :: rest) := rfl
    rw [value, same] at shorter
    have lengths := shorter.length_le
    rw [List.length_cons] at lengths
    omega
  · intro leads
    induction digits using List.reverseRecOn with
    | nil => exact absurd rfl nonempty
    | append_singleton front c ih =>
      have last : c.isDigit := decimal c (by simp)
      rw [digitsValue_concat]
      by_cases empty : front = []
      · subst empty
        exact (congrArg (fun n => (toString n).toList) (Nat.zero_add _)).trans (toString_digit last)
      · have noZero : front.head? ≠ some '0' := by
          intro zero
          have whole := leads (by rw [List.head?_append, zero]; rfl)
          have lengths := congrArg List.length whole
          have frontPositive := List.length_pos_iff.mpr empty
          simp only [List.length_append, List.length_cons, List.length_nil] at lengths
          omega
        have again := ih empty (fun d inFront => decimal d (by simp [inFront]))
          fun zero => absurd zero noZero
        have positive : 0 < digitsValue front := by
          refine Nat.pos_of_ne_zero fun zero => noZero ?_
          rw [← again, zero]
          rfl
        rw [toString_concat positive last, again]

end Templating
