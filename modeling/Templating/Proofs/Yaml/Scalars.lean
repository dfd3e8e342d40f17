import Templating.Yaml.Cutting
import Templating.Yaml.Layout

/-! Reading the scalars of a layout: words up to a colon or the end of their line, and texts between
double quotes; and what is passed before a token. Words and quoted texts stand for themselves, so each
character is read as it is and moves the mark by one column. -/

namespace Templating.Yaml

variable {c : Char} {chars rest done : List Char} {mark : Mark} {indent : Nat} {flow keyAllowed : Bool}

/-! ### Characters -/

theorem standsInQuotes_iff :
    standsInQuotes c = true ↔ 0x20 ≤ c.toNat ∧ c.toNat ≤ 0x7E ∧ c ≠ '"' ∧ c ≠ '\\' := by
  simp [standsInQuotes, and_assoc]

theorem standsInWord_iff :
    standsInWord c = true ↔ 0x21 ≤ c.toNat ∧ c.toNat ≤ 0x7E ∧ c ≠ ':' := by
  simp [standsInWord, and_assoc]

theorem isBreak_of_ascii (low : 0x20 ≤ c.toNat) (high : c.toNat ≤ 0x7E) : isBreak c = false := by
  rw [isBreak, Bool.or_eq_false_iff, Bool.or_eq_false_iff, beq_eq_false_iff_ne, beq_eq_false_iff_ne,
    beq_eq_false_iff_ne]
  refine ⟨⟨?_, ?_⟩, ?_⟩ <;> rintro rfl <;> revert low high <;> decide

theorem isBlank_of_visible (low : 0x21 ≤ c.toNat) : isBlank c = false := by
  rw [isBlank, Bool.or_eq_false_iff, beq_eq_false_iff_ne, beq_eq_false_iff_ne]
  refine ⟨?_, ?_⟩ <;> rintro rfl <;> revert low <;> decide

theorem Mark.after_of_ascii (unbroken : isBreak c = false) :
    mark.after c = ⟨mark.line, mark.column + 1⟩ := by
  rw [Mark.after, unbroken, if_neg Bool.false_ne_true]

theorem Mark.after_newline : mark.after '\n' = ⟨mark.line + 1, 0⟩ := rfl

/-- A character at which a token can start and no white space or comment. -/
def Shows (c : Char) : Prop :=
  isBlank c = false ∧ isBreak c = false ∧ c ≠ '#'

theorem shows_of_word (inWord : standsInWord c = true) (unmarked : isIndicator c = false) : Shows c := by
  obtain ⟨low, high, -⟩ := standsInWord_iff.mp inWord
  refine ⟨isBlank_of_visible low, isBreak_of_ascii (by omega) high, ?_⟩
  rintro rfl
  exact absurd unmarked (by decide)

/-! ### What is passed -/

namespace Cutting

theorem passFrom_space : passFrom flow keyAllowed mark (' ' :: rest) =
    passFrom flow keyAllowed ⟨mark.line, mark.column + 1⟩ rest := rfl

theorem passFrom_newline : passFrom flow keyAllowed mark ('\n' :: rest) =
    passFrom flow (keyAllowed || !flow) ⟨mark.line + 1, 0⟩ rest := rfl

theorem passFrom_spaces (count : Nat) :
    passFrom flow keyAllowed mark (List.replicate count ' ' ++ rest) =
      passFrom flow keyAllowed ⟨mark.line, mark.column + count⟩ rest := by
  induction count generalizing mark with
  | zero => rfl
  | succ count ih =>
    rw [List.replicate_succ, List.cons_append, passFrom_space, ih, Nat.add_assoc, Nat.add_comm 1]

theorem passFrom_shows (shown : Shows c) :
    passFrom flow keyAllowed mark (c :: rest) = (⟨mark, c :: rest⟩, keyAllowed) := by
  obtain ⟨blank, unbroken, comment⟩ := shown
  have space : c ≠ ' ' := by rintro rfl; cases blank
  have tab : c ≠ '\t' := by rintro rfl; cases blank
  rw [passFrom, if_neg (by simp [space, tab]), if_neg comment, if_neg (by simp [unbroken])]

end Cutting

/-! ### Words -/

/-- The characters of a word are read up to what follows it. -/
theorem plainFrom_word (inWord : ∀ c ∈ chars, standsInWord c = true) :
    plainFrom false indent done .nothing mark (chars ++ rest) =
      plainFrom false indent (chars.reverse ++ done) .nothing
        ⟨mark.line, mark.column + chars.length⟩ rest := by
  induction chars generalizing done mark with
  | nil => rfl
  | cons c more ih =>
    obtain ⟨low, high, colon⟩ := standsInWord_iff.mp (inWord c List.mem_cons_self)
    have visible := isBlank_of_visible low
    have unbroken : isBreak c = false := isBreak_of_ascii (by omega) high
    have belongs : fate false indent .nothing mark c (more ++ rest) = .belongs := by
      simp [fate, Between.nothing, markFate, colon]
    rw [List.cons_append, plainFrom, if_neg (by simp [visible]), if_neg (by simp [unbroken])]
    simp only [belongs]
    rw [Mark.after_of_ascii unbroken, ← List.cons_append, List.reverse_cons, List.append_assoc]
    rw [show mark.column + (c :: more).length = mark.column + 1 + more.length by simp; omega]
    exact ih fun d later => inWord d (List.mem_cons_of_mem c later)

/-- A word ends at a colon with white space behind it. -/
theorem plainFrom_colon (blank : startsBlank rest = true) :
    plainFrom false indent done .nothing mark (':' :: rest) =
      some ⟨String.ofList done.reverse, true, false, mark, ':' :: rest⟩ := by
  have ends : fate false indent .nothing mark ':' rest = .ends := by
    simp [fate, Between.nothing, markFate, blank]
  rw [plainFrom, if_neg (by decide), if_neg (by decide)]
  simp only [ends]
  rfl

/-- What follows a line: nothing, or a line that is not indented up to a column. -/
def Dedents (indent : Nat) (rest : List Char) : Prop :=
  rest = [] ∨ ∃ count c more, rest = List.replicate count ' ' ++ c :: more ∧ count < indent ∧ Shows c

theorem Dedents.mono {more : Nat} (dedents : Dedents indent rest) (less : indent ≤ more) :
    Dedents more rest := by
  rcases dedents with rfl | ⟨count, c, text, rfl, few, shown⟩
  · exact .inl rfl
  · exact .inr ⟨count, c, text, rfl, Nat.lt_of_lt_of_le few less, shown⟩

theorem Dedents.passFrom_again (dedents : Dedents indent rest) (mark : Mark) :
    ∃ place more, Cutting.passFrom false true mark rest = (⟨place, more⟩, true) ∧
      Cutting.passFrom false true place more = (⟨place, more⟩, true) := by
  rcases dedents with rfl | ⟨count, c, more, rfl, -, shown⟩
  · exact ⟨mark, [], rfl, rfl⟩
  · exact ⟨_, _, by rw [Cutting.passFrom_spaces, Cutting.passFrom_shows shown],
      Cutting.passFrom_shows shown⟩

/-- White space and one line break have been passed in a scalar. -/
theorem plainFrom_spaces (count : Nat) (others : List Char) :
    plainFrom false indent done (.breaks (some '\n') others) mark
        (List.replicate count ' ' ++ rest) =
      plainFrom false indent done (.breaks (some '\n') others)
        ⟨mark.line, mark.column + count⟩ rest := by
  induction count generalizing mark with
  | zero => rfl
  | succ count ih =>
    rw [List.replicate_succ, List.cons_append, plainFrom, if_pos (by decide), if_neg (by simp)]
    rw [Between.blank, Mark.after_of_ascii (by decide), ih, Nat.add_assoc, Nat.add_comm 1]

/-- A word ends at the end of its line, and what follows is passed. -/
theorem plainFrom_lineEnd (dedents : Dedents indent rest) :
    plainFrom false indent done .nothing mark ('\n' :: rest) =
      some ⟨String.ofList done.reverse, true, true,
        (Cutting.passFrom false true ⟨mark.line + 1, 0⟩ rest).1⟩ := by
  rw [plainFrom, if_neg (by decide), if_pos (by decide)]
  rcases dedents with rfl | ⟨count, c, more, rfl, less, shown⟩
  · rfl
  · have ends : fate false indent (.breaks (some '\n') []) ⟨mark.line + 1, 0 + count⟩ c more =
        .ends := by
      rw [fate, if_pos]
      exact .inr (.inl ⟨by simp, by simpa using less⟩)
    rw [Between.nothing, Between.lineBreak, Mark.after_newline, plainFrom_spaces,
      Cutting.passFrom_spaces, Cutting.passFrom_shows shown, plainFrom,
      if_neg (by simp [shown.1]), if_neg (by simp [shown.2.1])]
    simp only [ends]
    rfl

/-! ### Quoted texts -/

/-- The characters between double quotes are read as they are; white space is kept until something
follows it. -/
theorem doubleFrom_plain {blanks : List Char} (column : 0 < mark.column)
    (inQuotes : ∀ c ∈ chars, standsInQuotes c = true) :
    doubleFrom done (.blanks blanks) 0 mark (chars ++ '"' :: rest) =
      some ⟨String.ofList (done.reverse ++ blanks.reverse ++ chars), false, false,
        ⟨mark.line, mark.column + chars.length + 1⟩, rest⟩ := by
  induction chars generalizing done blanks mark with
  | nil =>
    rw [List.nil_append, doubleFrom, if_neg (by simp), if_neg (by omega), if_pos rfl, quoted,
      Mark.after_of_ascii (by decide)]
    simp [Between.text]
  | cons c more ih =>
    obtain ⟨low, high, quote, backslash⟩ := standsInQuotes_iff.mp (inQuotes c List.mem_cons_self)
    have unbroken := isBreak_of_ascii low high
    have later : ∀ d ∈ more, standsInQuotes d = true := fun d there =>
      inQuotes d (List.mem_cons_of_mem c there)
    have moved : (mark.after c).column + more.length + 1 =
        mark.column + (c :: more).length + 1 := by
      rw [Mark.after_of_ascii unbroken, List.length_cons]
      simp only
      omega
    have further : 0 < (mark.after c).column := by
      rw [Mark.after_of_ascii unbroken]
      simp
    have sameLine : (mark.after c).line = mark.line := by rw [Mark.after_of_ascii unbroken]
    rw [List.cons_append, doubleFrom, if_neg (by simp), if_neg (by omega), if_neg quote,
      if_neg backslash]
    by_cases blank : isBlank c = true
    · rw [if_pos blank, Between.blank, ih further later, moved, sameLine]
      simp
    · rw [if_neg blank, if_neg (by simp [unbroken])]
      rw [Between.nothing, ih further later, moved, sameLine]
      simp [Between.text]

theorem scalar?_quoted {text : String} (quotable : ∀ c ∈ text.toList, standsInQuotes c = true) :
    scalar? flow indent ⟨mark, (inQuotes text).toList ++ rest⟩ =
      some ⟨text, false, false,
        ⟨mark.line, mark.column + (inQuotes text).toList.length⟩, rest⟩ := by
  have spelled : (inQuotes text).toList ++ rest = '"' :: (text.toList ++ '"' :: rest) := by
    simp [inQuotes]
  have length : (inQuotes text).toList.length = text.toList.length + 2 := by
    simp [inQuotes]
  have column : 0 < (mark.after '"').column := by
    rw [Mark.after_of_ascii (by decide)]
    simp
  rw [spelled, length]
  simp only [scalar?, Between.nothing]
  rw [doubleFrom_plain column quotable, Mark.after_of_ascii (by decide)]
  simp
  omega

/-! ### Keys -/

theorem scalar?_of_plain (quote : c ≠ '"') (single : c ≠ '\'')
    (starts : startsPlain flow (c :: rest) = true) :
    scalar? flow indent ⟨mark, c :: rest⟩ =
      plainFrom flow indent [c] .nothing (mark.after c) rest := by
  unfold scalar?
  split
  · rename_i spelled
    cases spelled
    exact absurd rfl quote
  · rename_i spelled
    cases spelled
    exact absurd rfl single
  · rename_i spelled
    cases spelled
    rw [if_pos starts]
  · rename_i spelled
    cases spelled

namespace Key

/-- Whether a key stands without quotes. -/
def isPlain : Key → Bool
  | word _ => true
  | quoted _ => false

theorem exists_of_word {text : String} (proper : (word text).isProper = true) :
    ∃ c more, text.toList = c :: more ∧ isIndicator c = false ∧
      ∀ d ∈ c :: more, standsInWord d = true := by
  obtain ⟨unmarked, inWord⟩ := Bool.and_eq_true_iff.mp proper
  cases spelled : text.toList with
  | nil =>
    rw [spelled] at unmarked
    cases unmarked
  | cons c more =>
    rw [spelled] at unmarked inWord
    exact ⟨c, more, rfl, by simpa using unmarked, List.all_eq_true.mp inWord⟩

/-- A word is read up to what follows it. -/
theorem scalar?_word {text : String} (proper : (word text).isProper = true) :
    scalar? false indent ⟨mark, text.toList ++ rest⟩ =
      plainFrom false indent text.toList.reverse .nothing ⟨mark.line, mark.column + text.toList.length⟩
        rest := by
  obtain ⟨c, more, spelled, unmarked, inWord⟩ := exists_of_word proper
  obtain ⟨visible, unbroken, -⟩ := shows_of_word (inWord c List.mem_cons_self) unmarked
  have later : ∀ d ∈ more, standsInWord d = true := fun d there =>
    inWord d (List.mem_cons_of_mem c there)
  have starts : startsPlain false (c :: (more ++ rest)) = true := by
    rw [startsPlain, if_neg (by simp [visible, unbroken]), unmarked]
    rfl
  have quote : c ≠ '"' := by rintro rfl; exact absurd unmarked (by decide)
  have single : c ≠ '\'' := by rintro rfl; exact absurd unmarked (by decide)
  rw [spelled, List.cons_append, scalar?_of_plain quote single starts, plainFrom_word later,
    Mark.after_of_ascii unbroken, List.reverse_cons, List.length_cons, Nat.add_assoc, Nat.add_comm 1]

/-- A key is read up to its colon. -/
theorem scalar?_written {key : Key} (proper : key.isProper = true) (blank : startsBlank rest = true) :
    scalar? false indent ⟨mark, key.written.toList ++ ':' :: rest⟩ =
      some ⟨key.text, key.isPlain, false,
        ⟨mark.line, mark.column + key.written.toList.length⟩, ':' :: rest⟩ := by
  cases key with
  | quoted text => exact scalar?_quoted (List.all_eq_true.mp proper)
  | word text =>
    rw [written, scalar?_word proper, plainFrom_colon blank, List.reverse_reverse, String.ofList_toList]
    rfl

/-- A word is read up to the end of its line, and what may be passed behind it. -/
theorem scalar?_line {text : String} (proper : (word text).isProper = true)
    (dedents : Dedents indent rest) :
    scalar? false indent ⟨mark, text.toList ++ '\n' :: rest⟩ =
      some ⟨text, true, true, (Cutting.passFrom false true ⟨mark.line + 1, 0⟩ rest).1⟩ := by
  rw [scalar?_word proper, plainFrom_lineEnd dedents, List.reverse_reverse, String.ofList_toList]

end Key

end Templating.Yaml
