import Templating.Text.Phrase

/-! What phrases read and where they fail, rule by rule: from these lemmas a proof that a grammar
reads a text follows the grammar. -/

namespace Templating.Phrase

/-- A phrase reads the start of a text as a value and leaves the rest. -/
def Reads {α : Type} (phrase : Phrase α) (source : List Char) (value : α) (rest : List Char) :
    Prop :=
  phrase source = some (value, rest)

/-- A phrase does not fit the start of a text. -/
def Fails {α : Type} (phrase : Phrase α) (source : List Char) : Prop := phrase source = none

variable {α β : Type} {first other : Phrase α} {second : Phrase β} {then_ : α → Phrase β}
  {source rest last : List Char} {value : α} {next : β}

theorem reads_pure (value : α) (source : List Char) : Reads (pure value) source value source := rfl

theorem fails_failure (source : List Char) : Fails (failure : Phrase α) source := rfl

theorem bind_run (first : Phrase α) (then_ : α → Phrase β) (source : List Char) :
    (first >>= then_) source = (first source).bind fun (value, rest) => then_ value rest := rfl

theorem Reads.bind (h : Reads first source value rest) (more : Reads (then_ value) rest next last) :
    Reads (first >>= then_) source next last := by
  rw [Reads, bind_run, show first source = _ from h]
  exact more

theorem Reads.fails_bind (h : Reads first source value rest) (stuck : Fails (then_ value) rest) :
    Fails (first >>= then_) source := by
  rw [Fails, bind_run, show first source = _ from h]
  exact stuck

theorem Fails.bind (h : Fails first source) : Fails (first >>= then_) source := by
  rw [Fails, bind_run, show first source = _ from h]
  rfl

theorem map_run (f : α → β) (first : Phrase α) (source : List Char) :
    (f <$> first) source = (first source).bind fun (value, rest) => some (f value, rest) := rfl

theorem Reads.map (f : α → β) (h : Reads first source value rest) :
    Reads (f <$> first) source (f value) rest := by
  rw [Reads, map_run, show first source = _ from h]
  rfl

theorem Fails.map {f : α → β} (h : Fails first source) : Fails (f <$> first) source := by
  rw [Fails, map_run, show first source = _ from h]
  rfl

theorem Reads.seqRight (h : Reads first source value rest) (more : Reads second rest next last) :
    Reads (first *> second) source next last :=
  Reads.bind h more

theorem Reads.fails_seqRight (h : Reads first source value rest) (stuck : Fails second rest) :
    Fails (first *> second) source :=
  Reads.fails_bind h stuck

theorem Fails.seqRight (h : Fails first source) : Fails (first *> second) source := Fails.bind h

theorem Reads.seqLeft (h : Reads first source value rest) (more : Reads second rest next last) :
    Reads (first <* second) source value last :=
  Reads.bind h (Reads.bind more rfl)

theorem Fails.seqLeft (h : Fails first source) : Fails (first <* second) source := Fails.bind h

theorem orElse_run (first other : Phrase α) (source : List Char) :
    (first <|> other) source = (first source).orElse fun _ => other source := rfl

theorem Reads.orElse (h : Reads first source value rest) :
    Reads (first <|> other) source value rest := by
  rw [Reads, orElse_run, show first source = _ from h]
  rfl

theorem Fails.orElse (h : Fails first source) (next : Reads other source value rest) :
    Reads (first <|> other) source value rest := by
  rw [Reads, orElse_run, show first source = _ from h]
  exact next

theorem Fails.fails_orElse (h : Fails first source) (next : Fails other source) :
    Fails (first <|> other) source := by
  rw [Fails, orElse_run, show first source = _ from h]
  exact next

theorem Fails.optional? (h : Fails first source) : Reads (optional? first) source none source :=
  Fails.orElse (Fails.map h) (reads_pure none source)

theorem Fails.skip {first : Phrase Unit} (h : Fails first source) :
    Reads (skip first) source false source :=
  Fails.orElse (Fails.seqRight h) (reads_pure false source)

theorem Fails.many (h : Fails first source) : Reads (many first) source [] source := by
  rw [Reads, Phrase.many, show first source = _ from h]

theorem Reads.many {values : List α} (h : Reads first source value rest)
    (shorter : rest.length < source.length) (more : Reads (many first) rest values last) :
    Reads (many first) source (value :: values) last := by
  rw [Reads, Phrase.many, show first source = _ from h]
  simp only [if_pos shorter]
  rw [show Phrase.many first rest = _ from more]
  rfl

theorem reads_literal (text : String) (rest : List Char) :
    Reads (literal text) (text.toList ++ rest) () rest := by
  have start : text.toList.isPrefixOf (text.toList ++ rest) = true := by
    rw [List.isPrefixOf_iff_prefix]
    exact List.prefix_append _ _
  rw [Reads, literal, if_pos start, ← String.length_toList, List.drop_left]

theorem fails_literal {text : String} (h : ¬text.toList <+: source) :
    Fails (literal text) source := by
  rw [Fails, literal, if_neg]
  rwa [List.isPrefixOf_iff_prefix]

/-- A text does not start what another character starts. -/
theorem fails_literal_cons {text : String} {c : Char} (h : text.toList.head?.any (· ≠ c)) :
    Fails (literal text) (c :: source) := by
  refine fails_literal fun start => ?_
  cases spelled : text.toList with
  | nil =>
    rw [spelled] at h
    cases h
  | cons d more =>
    rw [spelled] at start h
    exact of_decide_eq_true h (List.cons_prefix_cons.mp start).1

theorem fails_oneOf {texts : List (String × α)}
    (h : ∀ entry ∈ texts, Fails (literal entry.1) source) : Fails (oneOf texts) source := by
  induction texts with
  | nil => exact fails_failure source
  | cons entry more ih =>
    have none : Fails (literal entry.1 *> pure entry.2) source :=
      Fails.seqRight (h entry List.mem_cons_self)
    exact Fails.fails_orElse none (ih fun other inMore => h other (List.mem_cons_of_mem _ inMore))

theorem fails_char {p : Char → Bool} {c : Char} (h : p c = false) : Fails (char p) (c :: source) := by
  rw [Fails, char, if_neg (by rw [h]; exact Bool.false_ne_true)]

theorem reads_char {p : Char → Bool} {c : Char} (h : p c = true) :
    Reads (char p) (c :: source) c source := by
  rw [Reads, char, if_pos h]

theorem reads_run {p : Char → Bool} {passed : List Char} {c : Char}
    (h : ∀ d ∈ passed, p d = true) (stop : p c = false) :
    Reads (run p) (passed ++ c :: rest) passed (c :: rest) := by
  have stays : ¬p c = true := by rw [stop]; exact Bool.false_ne_true
  rw [Reads, run, List.takeWhile_append_of_pos h, List.dropWhile_append_of_pos h,
    List.takeWhile_cons_of_neg stays, List.dropWhile_cons_of_neg stays, List.append_nil]

end Templating.Phrase
