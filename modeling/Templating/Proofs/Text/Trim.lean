import Templating.Text.Blank

/-! Trimming, said without the functions that do it: the trimmed text stands in the text between two
parts of a class, and neither begins nor ends with a character of it. -/

namespace Templating

/-- `core` is `text` without the characters of class `p` at its ends. -/
structure Trims (p : Char → Bool) (text core : List Char) : Prop where
  parts : ∃ left right, text = left ++ core ++ right ∧ (∀ c ∈ left, p c) ∧ ∀ c ∈ right, p c
  first : ∀ c ∈ core.head?, ¬p c
  last : ∀ c ∈ core.getLast?, ¬p c

variable {p : Char → Bool} {text left right : List Char}

theorem dropWhile_of_head (h : ∀ c ∈ text.head?, ¬p c) : text.dropWhile p = text := by
  cases text with
  | nil => rfl
  | cons c rest => rw [List.dropWhile_cons_of_neg (h c rfl)]

theorem head_dropWhile (p : Char → Bool) (text : List Char) :
    ∀ c ∈ (text.dropWhile p).head?, ¬p c := by
  intro c hc
  have := List.head?_dropWhile_not p text
  rw [Option.mem_def.mp hc] at this
  simpa using this

theorem trimLeftOf_of_class (h : ∀ c ∈ text, p c) : trimLeftOf p text = [] := by
  rw [trimLeftOf, ← List.append_nil text, List.dropWhile_append_of_pos h, List.dropWhile_nil]

theorem trimLeftOf_append (hl : ∀ c ∈ left, p c) (h : ∀ c ∈ text.head?, ¬p c) :
    trimLeftOf p (left ++ text) = text := by
  rw [trimLeftOf, List.dropWhile_append_of_pos hl, dropWhile_of_head h]

theorem trimRightOf_append (hr : ∀ c ∈ right, p c) (h : ∀ c ∈ text.getLast?, ¬p c) :
    trimRightOf p (text ++ right) = text := by
  have hr' : ∀ c ∈ right.reverse, p c := by simpa using hr
  rw [trimRightOf, List.reverse_append, List.dropWhile_append_of_pos hr',
    dropWhile_of_head (by simpa using h), List.reverse_reverse]

/-- What trimming at the end leaves out is of the class. -/
theorem trimRightOf_parts (p : Char → Bool) (text : List Char) :
    ∃ right, text = trimRightOf p text ++ right ∧ ∀ c ∈ right, p c := by
  refine ⟨(text.reverse.takeWhile p).reverse, ?_, fun c hc => ?_⟩
  · rw [trimRightOf, ← List.reverse_append, List.takeWhile_append_dropWhile, List.reverse_reverse]
  · exact List.all_eq_true.mp List.all_takeWhile c (List.mem_reverse.mp hc)

theorem trimOf_trims (p : Char → Bool) (text : List Char) : Trims p text (trimOf p text) := by
  obtain ⟨right, hr, hp⟩ := trimRightOf_parts p (trimLeftOf p text)
  refine ⟨⟨text.takeWhile p, right, ?_, ?_, hp⟩, ?_, ?_⟩
  · rw [List.append_assoc, trimOf, ← hr, trimLeftOf, List.takeWhile_append_dropWhile]
  · exact List.all_eq_true.mp List.all_takeWhile
  · -- The trimmed text begins as the text that is trimmed at its start alone.
    intro c hc
    refine head_dropWhile p text c ?_
    rw [show text.dropWhile p = trimLeftOf p text from rfl, hr, List.head?_append]
    simp only [trimOf, Option.mem_def] at hc ⊢
    simp [hc]
  · intro c hc
    rw [trimOf, trimRightOf, List.getLast?_reverse] at hc
    exact head_dropWhile p _ c hc

theorem trims_iff {core : List Char} : Trims p text core ↔ trimOf p text = core := by
  constructor
  · rintro ⟨⟨left, right, rfl, hl, hr⟩, hf, he⟩
    cases core with
    | nil =>
      rw [trimOf, List.append_nil, trimLeftOf_of_class (by
        intro c hc
        exact (List.mem_append.mp hc).elim (hl c) (hr c))]
      rfl
    | cons c rest =>
      rw [trimOf, List.append_assoc, trimLeftOf_append hl (by simpa using hf),
        trimRightOf_append hr he]
  · rintro rfl
    exact trimOf_trims p text

end Templating
