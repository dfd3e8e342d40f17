import Templating.Proofs.Printing.Form
import Templating.Proofs.Text.Phrase
import Templating.Sheet.Grammar

/-! Reading a name as an expression of a sheet. The rules for expressions are tried in order, so that a
name is a variable only after all that comes before variables has failed: a constant that is the start
of the name would not. -/

namespace Templating.Sheet

open Phrase

/-- The constants, which are read wherever a name starts with one. -/
def constants : List String := ["true", "True", "false", "False"]

/-- A name that is a variable in a print tag: letters that start with no constant and are not `not`. -/
structure Readable (name : String) : Prop where
  letters : LettersOnly name
  noConstant : ∀ constant ∈ constants, ¬constant.toList <+: name.toList
  noNegation : name ≠ "not"

instance (name : String) : Decidable (Readable name) :=
  decidable_of_iff
    (LettersOnly name ∧ (∀ constant ∈ constants, ¬constant.toList <+: name.toList) ∧ name ≠ "not")
    ⟨fun ⟨letters, noConstant, noNegation⟩ => ⟨letters, noConstant, noNegation⟩,
      fun readable => ⟨readable.letters, readable.noConstant, readable.noNegation⟩⟩

/-- A name that is one operand wherever an expression starts with it. -/
structure Free (name : String) : Prop where
  named : Identifier name
  noConstant : ∀ constant ∈ constants, ¬constant.toList <+: name.toList
  noNegation : name ≠ "not"

instance (name : String) : Decidable (Free name) :=
  decidable_of_iff
    (Identifier name ∧ (∀ constant ∈ constants, ¬constant.toList <+: name.toList) ∧ name ≠ "not")
    ⟨fun ⟨named, noConstant, noNegation⟩ => ⟨named, noConstant, noNegation⟩,
      fun free => ⟨free.named, free.noConstant, free.noNegation⟩⟩

theorem Readable.free {name : String} (readable : Readable name) : Free name :=
  ⟨readable.letters.identifier, readable.noConstant, readable.noNegation⟩

/-! ### Where an operand ends -/

/-- The characters that no expression goes on with: the end of a print tag and what ends an
argument. -/
def stops : List Char := ['\x7d', ',', ')']

/-- The characters that can follow an operand that stands alone. -/
def breaks : List Char := [' ', '\t', '\r', '\n'] ++ stops

/-- White space, of which there may be none, and a character that ends an expression. -/
structure Ends (after : List Char) (stop : Char) (rest : List Char) : Prop where
  stop_mem : stop ∈ stops
  exists_gap : ∃ gap : List Char, (∀ c ∈ gap, isSpace c = true) ∧ after = gap ++ stop :: rest

section Ends

variable {after rest : List Char} {stop : Char}

theorem Ends.of_stop (h : stop ∈ stops) : Ends (stop :: rest) stop rest :=
  ⟨h, [], nofun, rfl⟩

theorem Ends.of_space (h : stop ∈ stops) : Ends (' ' :: stop :: rest) stop rest :=
  ⟨h, [' '], List.forall_mem_singleton.mpr rfl, rfl⟩

theorem isSpace_of_stop (h : stop ∈ stops) : isSpace stop = false := by
  have none : (stops.all fun c => !isSpace c) = true := by decide
  simpa using List.all_eq_true.mp none stop h

theorem mem_breaks_of_isSpace {c : Char} (h : isSpace c = true) : c ∈ breaks := by
  simp only [isSpace, Bool.or_eq_true, beq_iff_eq] at h
  rcases h with ((rfl | rfl) | rfl) | rfl <;> decide

theorem Ends.exists_cons (ends : Ends after stop rest) :
    ∃ c more, after = c :: more ∧ c ∈ breaks := by
  obtain ⟨stopped, gap, spaces, rfl⟩ := ends
  cases gap with
  | nil => exact ⟨stop, rest, rfl, List.mem_append_right _ stopped⟩
  | cons c gap => exact ⟨c, _, rfl, mem_breaks_of_isSpace (spaces c List.mem_cons_self)⟩

theorem inIdentifier_of_break {c : Char} (h : c ∈ breaks) : inIdentifier c = false := by
  have none : (breaks.all fun c => !inIdentifier c) = true := by decide
  simpa using List.all_eq_true.mp none c h

end Ends

section Expression

variable {α : Type} {phrase : Phrase α} {source after rest : List Char} {stop : Char} {value : α}
  {name text : String}

theorem fails_literal_of_mem {chars : List Char} {c : Char} (h : c ∈ chars)
    (other : text.toList.head?.any fun d => !chars.contains d) :
    Fails (literal text) (c :: rest) := by
  refine fails_literal_cons ?_
  cases started : text.toList.head? with
  | none =>
    rw [started] at other
    cases other
  | some d =>
    rw [started] at other
    have apart : d ∉ chars := by simpa using other
    have differs : d ≠ c := fun same => apart (same ▸ h)
    simpa using differs

theorem fails_literal_stop (h : stop ∈ stops)
    (other : text.toList.head?.any fun c => !stops.contains c) :
    Fails (literal text) (stop :: rest) :=
  fails_literal_of_mem h other

theorem fails_oneOf_stop {texts : List (String × α)} (h : stop ∈ stops)
    (other : ∀ entry ∈ texts, entry.1.toList.head?.any fun c => !stops.contains c) :
    Fails (oneOf texts) (stop :: rest) :=
  fails_oneOf fun entry inTable => fails_literal_stop h (other entry inTable)

theorem fails_literal_name (named : Identifier name)
    (h : text.toList.head?.any (!startsIdentifier ·)) :
    Fails (literal text) (name.toList ++ after) := by
  obtain ⟨c, more, spelled, starts, -⟩ := named.exists_cons
  rw [spelled, List.cons_append]
  refine fails_literal_cons ?_
  cases started : text.toList.head? with
  | none =>
    rw [started] at h
    cases h
  | some d =>
    rw [started] at h
    have other : startsIdentifier d = false := by simpa using h
    simpa using (ne_of_startsIdentifier starts other).symm

theorem fails_char_name {p : Char → Bool} (named : Identifier name)
    (h : ∀ c, startsIdentifier c = true → p c = false) :
    Fails (char p) (name.toList ++ after) := by
  obtain ⟨c, more, spelled, starts, -⟩ := named.exists_cons
  rw [spelled, List.cons_append]
  exact fails_char (h c starts)

theorem isSpace_of_inIdentifier {c : Char} (h : inIdentifier c = true) : isSpace c = false := by
  simp only [isSpace, Bool.or_eq_false_iff, beq_eq_false_iff_ne]
  exact ⟨⟨⟨ne_of_inIdentifier h rfl, ne_of_inIdentifier h rfl⟩, ne_of_inIdentifier h rfl⟩,
    ne_of_inIdentifier h rfl⟩

/-- White space up to another character is passed. -/
theorem reads_spaces {gap : List Char} {c : Char} (spaces : ∀ d ∈ gap, isSpace d = true)
    (stop : isSpace c = false) : Reads Sheet.spaces (gap ++ c :: rest) () (c :: rest) :=
  Reads.seqRight (reads_run spaces stop) (reads_pure () _)

theorem reads_lexeme {gap : List Char} {c : Char}
    (h : Reads phrase source value (gap ++ c :: rest)) (spaces : ∀ d ∈ gap, isSpace d = true)
    (stop : isSpace c = false) : Reads (lexeme phrase) source value (c :: rest) :=
  Reads.seqLeft h (reads_spaces spaces stop)

theorem Ends.reads_lexeme (ends : Ends after stop rest) (h : Reads phrase source value after) :
    Reads (lexeme phrase) source value (stop :: rest) := by
  obtain ⟨stopped, gap, spaces, rfl⟩ := ends
  exact Sheet.reads_lexeme h spaces (isSpace_of_stop stopped)

theorem fails_lexeme (h : Fails phrase source) : Fails (lexeme phrase) source := Fails.seqLeft h

theorem fails_mark_stop (h : stop ∈ stops)
    (other : text.toList.head?.any fun c => !stops.contains c) :
    Fails (mark text) (stop :: rest) :=
  fails_lexeme (fails_literal_stop h other)

theorem fails_mark_name (named : Identifier name) (h : text.toList.head?.any (!startsIdentifier ·)) :
    Fails (mark text) (name.toList ++ after) :=
  fails_lexeme (fails_literal_name named h)

theorem fails_word_stop (h : stop ∈ stops)
    (other : text.toList.head?.any fun c => !stops.contains c) :
    Fails (word text) (stop :: rest) :=
  Fails.seqRight (fails_literal_stop h other)

/-- What can stand in a name and starts a name with what follows it starts the name. -/
theorem prefix_name {c : Char} (parts : ∀ d ∈ text.toList, inIdentifier d = true)
    (outside : inIdentifier c = false) (h : text.toList <+: name.toList ++ c :: rest) :
    text.toList <+: name.toList := by
  rcases List.prefix_or_prefix_of_prefix h (List.prefix_append name.toList _) with
    shorter | ⟨more, spelled⟩
  · exact shorter
  · cases more with
    | nil =>
      have same : name.toList = text.toList := by rw [← spelled, List.append_nil]
      exact same ▸ List.prefix_rfl
    | cons d more =>
      -- The character after the name would be one of the text.
      have inside := parts d (spelled ▸ List.mem_append_right _ List.mem_cons_self)
      rw [← spelled] at h
      obtain ⟨rfl, -⟩ := List.cons_prefix_cons.mp ((List.prefix_append_right_inj _).mp h)
      rw [outside] at inside
      cases inside

theorem reads_name {c : Char} (named : Identifier name) (outside : inIdentifier c = false) :
    Reads Sheet.name (name.toList ++ c :: rest) name (c :: rest) := by
  obtain ⟨first, more, spelled, starts, parts⟩ := named.exists_cons
  have whole : String.ofList (first :: more) = name := by rw [← spelled, String.ofList_toList]
  rw [spelled, List.cons_append, ← whole]
  exact Reads.bind (reads_char starts) (Reads.bind (reads_run parts outside) (reads_pure _ _))

theorem fails_boolTerm {c : Char} (free : Free name) (outside : inIdentifier c = false) :
    Fails Nested.boolTerm (name.toList ++ c :: rest) := by
  have all : (constants.all fun constant => constant.toList.all inIdentifier) = true := by decide
  have parts : ∀ constant ∈ constants, ∀ d ∈ constant.toList, inIdentifier d = true := by
    simpa only [List.all_eq_true] using all
  refine fails_oneOf fun entry inTable => fails_literal fun start => ?_
  have constant : entry.1 ∈ constants := by
    have inTexts := List.mem_map_of_mem (f := Prod.fst) inTable
    exact inTexts
  exact free.noConstant entry.1 constant (prefix_name (parts entry.1 constant) outside start)

theorem fails_wholeDigits (named : Identifier name) :
    Fails wholeDigits (name.toList ++ after) := by
  have noZero : Fails (literal "0") (name.toList ++ after) := fails_literal_name named (by decide)
  have noDigit : Fails (char fun c => c.isDigit && c != '0') (name.toList ++ after) :=
    fails_char_name named fun c starts => by
      rw [isDigit_of_startsIdentifier starts, Bool.false_and]
  exact Fails.fails_orElse (Fails.seqRight noZero) (Fails.bind noDigit)

theorem reads_no_minus (named : Identifier name) :
    Reads (skip (literal "-")) (name.toList ++ after) false (name.toList ++ after) :=
  Fails.skip (fails_literal_name named (by decide))

theorem fails_floatTerm (named : Identifier name) : Fails floatTerm (name.toList ++ after) :=
  Reads.fails_bind (reads_no_minus named) (Fails.bind (fails_wholeDigits named))

theorem fails_intTerm (named : Identifier name) : Fails intTerm (name.toList ++ after) :=
  Reads.fails_bind (reads_no_minus named) (Fails.bind (fails_wholeDigits named))

theorem fails_quotedBy {quote : Char} (named : Identifier name)
    (h : startsIdentifier quote = false) : Fails (quotedBy quote) (name.toList ++ after) :=
  Fails.bind (fails_char_name named fun _ starts =>
    beq_eq_false_iff_ne.mpr (ne_of_startsIdentifier starts h))

theorem fails_quotedText (named : Identifier name) : Fails quotedText (name.toList ++ after) :=
  Fails.fails_orElse (fails_quotedBy named rfl)
    (Fails.fails_orElse (fails_quotedBy named rfl) (fails_quotedBy named rfl))

/-- A `not` needs white space after it, which no part of a name is. -/
theorem fails_not {c : Char} (free : Free name) (outside : inIdentifier c = false) :
    Fails (word "not") (name.toList ++ c :: rest) := by
  by_cases start : "not".toList <+: name.toList ++ c :: rest
  · have letters : ("not".toList.all inIdentifier) = true := by decide
    obtain ⟨more, spelled⟩ := prefix_name (List.all_eq_true.mp letters) outside start
    cases more with
    | nil =>
      rw [List.append_nil] at spelled
      exact absurd (String.toList_injective spelled).symm free.noNegation
    | cons d more =>
      have part : inIdentifier d = true :=
        free.named.2 d (spelled ▸ List.mem_append_right _ List.mem_cons_self)
      rw [← spelled, List.append_assoc]
      exact Reads.fails_seqRight (reads_literal "not" _)
        (Fails.seqRight (Fails.bind (fails_char (isSpace_of_inIdentifier part))))
  · exact Fails.seqRight (fails_literal start)

end Expression

/-- The expression that a name is. -/
def Expr.ofName (name : String) : Expr := .mk false (.var (.mk name [])) []

namespace Nested

/-! ### An operand alone

Before a character that ends an expression, an operand is a whole expression: each level of the
grammar reads what the level below reads and finds nothing after it. -/

section Alone

variable {nested : Nested} {source rest : List Char} {stop : Char} {term : Term} {e : Expr}

theorem fails_filter (h : stop ∈ stops) : Fails nested.filter (stop :: rest) :=
  Fails.bind (fails_mark_stop h (by decide))

theorem fails_mathOp (h : stop ∈ stops) : Fails mathOp (stop :: rest) :=
  fails_lexeme (fails_oneOf_stop h (by decide))

theorem reads_filteredArithmetic (h : stop ∈ stops) (noParenthesis : Fails (mark "(") source)
    (operand : Reads nested.operand source term (stop :: rest)) :
    Reads nested.filteredArithmetic source (.ofTerm term) (stop :: rest) := by
  have factor : Reads nested.factor source (.ofTerm term) (stop :: rest) :=
    Fails.orElse (Fails.seqLeft (Fails.seqRight noParenthesis)) (Reads.map Expr.ofTerm operand)
  have arithmetic : Reads nested.arithmeticRule source (.ofTerm term) (stop :: rest) :=
    Reads.bind factor (Reads.bind (Fails.many (Fails.bind (fails_mathOp h))) (reads_pure _ _))
  exact Reads.bind arithmetic (Reads.bind (Fails.many (fails_filter h)) (reads_pure _ _))

/-- A part of a joined text to which nothing is joined is no joined text. -/
theorem fails_filteredText (h : stop ∈ stops)
    (part : Reads nested.concatPart source term (stop :: rest)) (noText : Fails quotedText source) :
    Fails nested.filteredText source := by
  refine Fails.bind (Fails.fails_orElse ?_ (Fails.map (fails_lexeme noText)))
  exact Reads.fails_bind part (Fails.bind (fails_mark_stop h (by decide)))

theorem reads_comparand (h : stop ∈ stops) (noText : Fails nested.filteredText source)
    (arithmetic : Reads nested.filteredArithmetic source e (stop :: rest)) :
    Reads nested.comparand source e (stop :: rest) :=
  Fails.orElse noText
    (Reads.bind arithmetic
      (Reads.bind (Fails.many (Fails.bind (fails_mathOp h))) (reads_pure _ _)))

theorem fails_membership (h : stop ∈ stops)
    (item : Reads (nested.filteredText <|> nested.filteredArithmetic) source e (stop :: rest)) :
    Fails nested.membership source := by
  have noNot : Reads (skip (word "not")) (stop :: rest) false (stop :: rest) :=
    Fails.skip (fails_word_stop h (by decide))
  exact Reads.fails_bind item
    (Reads.fails_bind noNot (Fails.bind (fails_mark_stop h (by decide))))

theorem reads_comparison (h : stop ∈ stops)
    (comparand : Reads nested.comparand source e (stop :: rest)) :
    Reads nested.comparison source e (stop :: rest) := by
  have noComparison : Fails comparisonOp (stop :: rest) :=
    fails_lexeme (fails_oneOf_stop h (by decide))
  exact Reads.bind comparand
    (Reads.bind (Fails.optional? (Fails.bind noComparison)) (reads_pure _ _))

theorem reads_condition (h : stop ∈ stops) (noNot : Fails (word "not") source)
    (item : Reads (nested.filteredText <|> nested.filteredArithmetic) source (.ofTerm term)
      (stop :: rest))
    (comparand : Reads nested.comparand source (.ofTerm term) (stop :: rest)) :
    Reads nested.conditionRule source (.ofTerm term) (stop :: rest) := by
  have part : Reads nested.conditionPart source (.ofTerm term) (stop :: rest) :=
    Reads.orElse (Reads.bind (Fails.skip noNot)
      (Reads.bind (Fails.orElse (fails_membership h item) (reads_comparison h comparand))
        (reads_pure _ _)))
  have noConnective : Fails connective (stop :: rest) :=
    Fails.fails_orElse (Fails.seqRight (fails_word_stop h (by decide)))
      (Fails.seqRight (fails_word_stop h (by decide)))
  exact Reads.bind part
    (Reads.bind (Fails.many (Fails.bind noConnective)) (reads_pure _ _))

/-- A condition of an operand that is no text. -/
theorem reads_condition_of_operand (h : stop ∈ stops) (noNot : Fails (word "not") source)
    (noParenthesis : Fails (mark "(") source) (noText : Fails nested.filteredText source)
    (operand : Reads nested.operand source term (stop :: rest)) :
    Reads nested.conditionRule source (.ofTerm term) (stop :: rest) := by
  have arithmetic := reads_filteredArithmetic h noParenthesis operand
  exact reads_condition h noNot (Fails.orElse noText arithmetic)
    (reads_comparand h noText arithmetic)

end Alone

section Name

variable {nested : Nested} {after rest : List Char} {c stop : Char} {name : String}

theorem fails_step (h : c ∈ breaks) : Fails nested.step (c :: rest) := by
  have noPoint : Fails (literal ".") (c :: rest) := fails_literal_of_mem h (by decide)
  have noBracket : Fails (literal "[") (c :: rest) := fails_literal_of_mem h (by decide)
  exact Fails.fails_orElse (Fails.bind noPoint) (Fails.bind noBracket)

theorem reads_path (named : Identifier name) (ends : Ends after stop rest) :
    Reads (lexeme nested.pathRule) (name.toList ++ after) (.mk name []) (stop :: rest) := by
  obtain ⟨c, more, rfl, break_⟩ := ends.exists_cons
  exact ends.reads_lexeme (Reads.bind (reads_name named (inIdentifier_of_break break_))
    (Reads.bind (Fails.many (fails_step break_)) (reads_pure _ _)))

theorem fails_call_name (named : Identifier name) (ends : Ends after stop rest) :
    Fails nested.call (name.toList ++ after) := by
  obtain ⟨c, more, rfl, break_⟩ := ends.exists_cons
  exact Reads.fails_bind (ends.reads_lexeme (reads_name named (inIdentifier_of_break break_)))
    (Fails.bind (fails_mark_stop ends.stop_mem (by decide)))

theorem fails_test_name (negated : Bool) (named : Identifier name) (ends : Ends after stop rest) :
    Fails (nested.test negated) (name.toList ++ after) :=
  Reads.fails_bind (reads_path named ends)
    (Fails.bind (fails_mark_stop ends.stop_mem (by decide)))

theorem reads_operand_name (free : Free name) (ends : Ends after stop rest) :
    Reads nested.operand (name.toList ++ after) (.var (.mk name [])) (stop :: rest) := by
  have named := free.named
  obtain ⟨c, more, same, break_⟩ := ends.exists_cons
  have noConstant : Fails boolTerm (name.toList ++ after) :=
    same ▸ fails_boolTerm free (inIdentifier_of_break break_)
  -- Constants, tests and calls come first; numbers, which come after variables, are not tried.
  refine Fails.orElse (fails_lexeme noConstant) ?_
  refine Fails.orElse (fails_test_name true named ends) ?_
  refine Fails.orElse (fails_test_name false named ends) ?_
  refine Fails.orElse (Fails.map (fails_call_name named ends)) ?_
  exact Reads.orElse (Reads.map Term.var (reads_path named ends))

theorem fails_filteredText_name (free : Free name) (ends : Ends after stop rest) :
    Fails nested.filteredText (name.toList ++ after) := by
  have named := free.named
  have part : Reads nested.concatPart (name.toList ++ after) (.var (.mk name []))
      (stop :: rest) := by
    refine Fails.orElse (Fails.map (fails_call_name named ends)) ?_
    refine Fails.orElse (fails_lexeme (fails_floatTerm named)) ?_
    refine Fails.orElse (fails_lexeme (fails_intTerm named)) ?_
    refine Fails.orElse (Fails.map (fails_lexeme (fails_quotedText named))) ?_
    exact Reads.map Term.var (reads_path named ends)
  exact fails_filteredText ends.stop_mem part (fails_quotedText named)

/-- A name at the start of an expression, before what ends it, is all of the expression. -/
theorem reads_whole_name (depth : Nat) (free : Free name) (ends : Ends after stop rest) :
    Reads (ofDepth (depth + 1)).whole (name.toList ++ after) (.ofName name) (stop :: rest) := by
  obtain ⟨c, more, same, break_⟩ := ends.exists_cons
  have noNot : Fails (word "not") (name.toList ++ after) :=
    same ▸ fails_not free (inIdentifier_of_break break_)
  exact Reads.orElse (reads_condition_of_operand ends.stop_mem noNot
    (fails_mark_name free.named (by decide)) (fails_filteredText_name free ends)
    (reads_operand_name free ends))

end Name

end Nested

end Templating.Sheet
