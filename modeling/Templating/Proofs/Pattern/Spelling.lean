import Templating.Proofs.Pattern.Concatenation

/-! The spelling of slots. A pattern keeps what a slot asks for and not how the source spells it, so a
slot without an argument is rendered without white space, plus sign and leading zeros. Without
arguments a source comes back as it is just where all of its slots are spelled so. -/

namespace Templating

/-- The body of a slot as a pattern prints it. -/
def Slot.body : Slot → List Char
  | next => []
  | index n => (toString n).toList

namespace Pattern

/-- The body of a slot with nothing to spare: no white space, no plus sign, and no zero before a
number. -/
structure Bare (body : List Char) : Prop where
  decimal : ∀ c ∈ body, c.isDigit
  unpadded : body.head? = some '0' → body = ['0']

instance (body : List Char) : Decidable (Bare body) :=
  decidable_of_iff (body.all Char.isDigit ∧ (body.head? = some '0' → body = ['0']))
    ⟨fun ⟨decimal, unpadded⟩ => ⟨List.all_eq_true.mp decimal, unpadded⟩,
      fun ⟨decimal, unpadded⟩ => ⟨List.all_eq_true.mpr decimal, unpadded⟩⟩

/-- A character stands twice in a row. -/
def Doubles (c : Char) (text : String) : Prop := [c, c] <:+: text.toList

instance (c : Char) (text : String) : Decidable (Doubles c text) :=
  inferInstanceAs (Decidable (_ <:+: _))

/-- A lexeme as its source writes it. -/
def Lexeme.written : Lexeme → List Char
  | .opening => ['\x7b', '\x7b']
  | .closing => ['\x7d', '\x7d']
  | .plain c => [c]
  | .slot body _ => '\x7b' :: (body ++ ['\x7d'])

/-- How many lexemes are slots for the next argument. -/
def asked (lexemes : List Lexeme) : Nat :=
  lexemes.countP fun lexeme => lexeme.token = .slot .next

/-- The argument that a slot behind some lexemes asks for. -/
def argument? (arguments : List Json) (before : List Lexeme) : Slot → Option Json
  | .next => arguments[asked before]?
  | .index n => arguments[n]?

/-- What is rendered for a lexeme behind others. -/
def rendered (arguments : List Json) (before : List Lexeme) (lexeme : Lexeme) : List Char :=
  match lexeme.token with
  | .char c => [c]
  | .slot slot => (((argument? arguments before slot).map argumentText).getD slot.text).toList

/-- What is rendered for each of some lexemes behind others. -/
def renderedAll (arguments : List Json) (before lexemes : List Lexeme) : List (List Char) :=
  lexemes.mapIdx fun place lexeme => rendered arguments (before ++ lexemes.take place) lexeme

variable {arguments : List Json} {source body core : List Char} {lexemes before : List Lexeme}
  {lexeme : Lexeme} {slot : Slot}

/-! ### Rendering lexeme by lexeme -/

theorem renderedAll_cons (before rest : List Lexeme) (lexeme : Lexeme) :
    renderedAll arguments before (lexeme :: rest) =
      rendered arguments before lexeme :: renderedAll arguments (before ++ [lexeme]) rest := by
  simp only [renderedAll, List.mapIdx_cons, List.take_zero, List.append_nil, List.take_succ_cons,
    List.append_assoc, List.singleton_append]

theorem asked_concat_next (before : List Lexeme) (next : lexeme.token = .slot .next) :
    asked (before ++ [lexeme]) = asked before + 1 := by
  rw [asked, List.countP_append, List.countP_singleton, if_pos (decide_eq_true next), asked]

theorem asked_concat_other (before : List Lexeme) (other : lexeme.token ≠ .slot .next) :
    asked (before ++ [lexeme]) = asked before := by
  rw [asked, List.countP_append, List.countP_singleton, decide_eq_false other,
    if_neg Bool.false_ne_true, Nat.add_zero, asked]

theorem formatFrom_literal (count : Nat) (read : List Char) :
    formatFrom arguments count (literal read) = String.ofList read.reverse := by
  by_cases empty : read = []
  · subst empty
    rfl
  · rw [literal_of_ne_nil empty, formatFrom, formatFrom, String.append_empty]

theorem nextCount_literal (read : List Char) : nextCount (literal read) = 0 := by
  unfold literal
  split <;> rfl

theorem toList_formatFrom_gather (before : List Lexeme) (read : List Char)
    (lexemes : List Lexeme) :
    (formatFrom arguments (asked before) (gather read (lexemes.map Lexeme.token))).toList =
      read.reverse ++ (renderedAll arguments before lexemes).flatten := by
  -- Characters are held back until a slot or the end; only a slot moves the counter.
  induction lexemes generalizing before read with
  | nil =>
    rw [List.map_nil, gather, formatFrom_literal, String.toList_ofList]
    exact (List.append_nil _).symm
  | cons lexeme rest ih =>
    rw [renderedAll_cons, List.flatten_cons, List.map_cons, rendered]
    cases token : lexeme.token with
    | char c =>
      have later := ih (before ++ [lexeme]) (c :: read)
      rw [asked_concat_other before (by simp [token])] at later
      rw [gather, later, List.reverse_cons, List.append_assoc]
    | slot slot =>
      have later := ih (before ++ [lexeme]) []
      rw [List.reverse_nil, List.nil_append] at later
      rw [gather, formatFrom_append, formatFrom_literal, nextCount_literal, Nat.add_zero,
        String.toList_append, String.toList_ofList]
      congr 1
      cases slot with
      | next =>
        rw [asked_concat_next before token] at later
        rw [formatFrom, String.toList_append, later, slotText_eq_filled]
        rfl
      | index n =>
        rw [asked_concat_other before (by simp [token])] at later
        rw [formatFrom, String.toList_append, later, slotText_eq_filled]
        rfl

theorem toList_format {source : String} {pattern : Pattern} (h : parse source = .ok pattern)
    (reads : Reads source.toList lexemes) (arguments : List Json) :
    (pattern.format arguments).toList = (renderedAll arguments [] lexemes).flatten := by
  have found : (fun tokens => (⟨gather [] tokens⟩ : Pattern)) <$> tokens 0 source.toList =
      .ok pattern := h
  rw [tokens_of_reads reads 0] at found
  cases found
  exact toList_formatFrom_gather [] [] lexemes

/-! ### Spelling a slot -/

theorem toList_text (slot : Slot) : slot.text.toList = '\x7b' :: (slot.body ++ ['\x7d']) := by
  cases slot with
  | next => rfl
  | index n => exact toList_indexText n

theorem bare_body (slot : Slot) : Bare slot.body := by
  cases slot with
  | next => exact ⟨fun _ none => absurd none List.not_mem_nil,
    fun leads => absurd leads (by decide)⟩
  | index n =>
    have decimal : ∀ c ∈ (toString n).toList, c.isDigit := fun c inText => isDigit_toString inText
    refine ⟨decimal, (toString_digitsValue_eq_iff (toString_ne_nil n) decimal).mp ?_⟩
    rw [digitsValue_toString]

theorem Spells.body_isSuffix (h : Spells slot core) : slot.body <:+ core := by
  cases h with
  | next => exact List.suffix_rfl
  | index nonempty decimal fits => exact toString_digitsValue_isSuffix nonempty decimal
  | signed nonempty decimal fits =>
    exact (toString_digitsValue_isSuffix nonempty decimal).trans (List.suffix_cons _ _)

theorem body_isInfix (trims : Trims isBlank body core) (spells : Spells slot core) :
    slot.body <:+: body := by
  obtain ⟨left, right, rfl, -, -⟩ := trims.parts
  exact spells.body_isSuffix.isInfix.trans ⟨left, right, rfl⟩

/-- A slot is printed as it is spelled where its spelling has nothing to spare. -/
theorem body_eq_iff (trims : Trims isBlank body core) (spells : Spells slot core) :
    slot.body = body ↔ Bare body := by
  constructor
  · rintro rfl
    exact bare_body slot
  · intro bare
    obtain rfl : core = body :=
      (trims_iff.mp trims).symm.trans (trims_iff.mp (trims_digits bare.decimal))
    cases spells with
    | next => rfl
    | index nonempty decimal fits =>
      exact (toString_digitsValue_eq_iff nonempty decimal).mpr bare.unpadded
    | signed nonempty decimal fits =>
      exact absurd (bare.decimal '+' List.mem_cons_self) (by decide)

theorem text_eq_written_iff (trims : Trims isBlank body core) (spells : Spells slot core) :
    slot.text.toList = (Lexeme.slot body slot).written ↔ Bare body := by
  rw [toList_text, Lexeme.written, List.cons_inj_right, List.append_left_inj]
  exact body_eq_iff trims spells

/-! ### Rendering without arguments -/

/-- A lexeme that is rendered as it is written, without arguments. -/
def Lexeme.Stays : Lexeme → Prop
  | .opening => False
  | .closing => False
  | .plain _ => True
  | .slot body _ => Bare body

theorem Reads.flatMap_written (h : Reads source lexemes) :
    lexemes.flatMap Lexeme.written = source := by
  induction h with
  | done => rfl
  | opening _ ih | closing _ ih | plain _ _ _ ih =>
    rw [List.flatMap_cons, ih]
    rfl
  | slot _ _ _ _ _ ih =>
    rw [List.flatMap_cons, ih]
    simp [Lexeme.written]

theorem Reads.exists_spells (h : Reads source lexemes) (inside : .slot body slot ∈ lexemes) :
    ∃ core, Trims isBlank body core ∧ Spells slot core := by
  induction h with
  | done => cases inside
  | opening _ ih | closing _ ih | plain _ _ _ ih =>
    rcases List.mem_cons.mp inside with here | later
    · cases here
    · exact ih later
  | slot _ _ trims spells _ ih =>
    rcases List.mem_cons.mp inside with here | later
    · cases here
      exact ⟨_, trims, spells⟩
    · exact ih later

theorem rendered_of_missing (body : List Char) (missing : argument? arguments before slot = none) :
    rendered arguments before (.slot body slot) = slot.text.toList := by
  simp only [rendered, Lexeme.token, missing, Option.map_none, Option.getD_none]

theorem argument?_nil (before : List Lexeme) (slot : Slot) : argument? [] before slot = none := by
  cases slot <;> exact List.getElem?_nil

theorem renderedAll_nil (before lexemes : List Lexeme) :
    renderedAll [] before lexemes = lexemes.map (rendered [] []) := by
  have same : ∀ before lexeme, rendered [] before lexeme = rendered [] [] lexeme := by
    intro before lexeme
    simp only [rendered, argument?_nil]
  induction lexemes generalizing before with
  | nil => rfl
  | cons lexeme rest ih => rw [renderedAll_cons, ih, same, List.map_cons]

/-- Without arguments nothing is rendered that is not written, and in its order. -/
theorem Reads.rendered_sublist (h : Reads source lexemes) (inside : lexeme ∈ lexemes) :
    (rendered [] [] lexeme).Sublist lexeme.written ∧
      (rendered [] [] lexeme = lexeme.written ↔ lexeme.Stays) := by
  cases lexeme with
  | opening =>
    exact ⟨List.sublist_append_left ['\x7b'] ['\x7b'], iff_of_false (by decide) not_false⟩
  | closing =>
    exact ⟨List.sublist_append_left ['\x7d'] ['\x7d'], iff_of_false (by decide) not_false⟩
  | plain c => exact ⟨List.Sublist.refl _, fun _ => trivial, fun _ => rfl⟩
  | slot body slot =>
    obtain ⟨core, trims, spells⟩ := h.exists_spells inside
    rw [rendered_of_missing body (argument?_nil [] slot)]
    refine ⟨?_, text_eq_written_iff trims spells⟩
    rw [toList_text]
    exact ((body_isInfix trims spells).sublist.append_right _).cons_cons _

theorem flatMap_sublist {first second : Lexeme → List Char}
    (part : ∀ lexeme ∈ lexemes, (first lexeme).Sublist (second lexeme)) :
    (lexemes.flatMap first).Sublist (lexemes.flatMap second) := by
  induction lexemes with
  | nil => exact List.Sublist.refl _
  | cons lexeme rest ih =>
    rw [List.flatMap_cons, List.flatMap_cons]
    exact (part lexeme List.mem_cons_self).append
      (ih fun other inRest => part other (List.mem_cons_of_mem _ inRest))

theorem flatMap_eq_iff {first second : Lexeme → List Char}
    (part : ∀ lexeme ∈ lexemes, (first lexeme).Sublist (second lexeme)) :
    lexemes.flatMap first = lexemes.flatMap second ↔
      ∀ lexeme ∈ lexemes, first lexeme = second lexeme := by
  refine ⟨fun same => ?_, List.flatMap_congr⟩
  induction lexemes with
  | nil => exact fun _ none => absurd none List.not_mem_nil
  | cons lexeme rest ih =>
    have partOfRest : ∀ other ∈ rest, (first other).Sublist (second other) :=
      fun other inRest => part other (List.mem_cons_of_mem _ inRest)
    have here := (part lexeme List.mem_cons_self).length_le
    have there := (flatMap_sublist partOfRest).length_le
    -- No text is longer than its partner, so none makes up for what another lacks.
    have total := congrArg List.length same
    rw [List.flatMap_cons, List.flatMap_cons] at same
    simp only [List.flatMap_cons, List.length_append] at total
    obtain ⟨first_eq, rest_eq⟩ := List.append_inj same (by omega)
    exact List.forall_mem_cons.mpr ⟨first_eq, ih partOfRest rest_eq⟩

theorem format_nil_eq_iff {source : String} {pattern : Pattern} (h : parse source = .ok pattern)
    (reads : Reads source.toList lexemes) :
    pattern.format [] = source ↔ ∀ lexeme ∈ lexemes, lexeme.Stays := by
  have part := fun lexeme (inside : lexeme ∈ lexemes) => (reads.rendered_sublist inside).1
  rw [← String.toList_inj, toList_format h reads, renderedAll_nil, ← List.flatMap_def,
    ← reads.flatMap_written, flatMap_eq_iff part]
  exact forall₂_congr fun lexeme inside => (reads.rendered_sublist inside).2

theorem doubles_of_mem {source : String} {c : Char} (reads : Reads source.toList lexemes)
    (inside : lexeme ∈ lexemes) (doubled : lexeme.written = [c, c]) : Doubles c source := by
  have part := List.infix_of_mem_flatten (List.mem_map_of_mem (f := Lexeme.written) inside)
  rw [← List.flatMap_def, reads.flatMap_written, doubled] at part
  exact part

theorem stays_iff_of_not_doubles {source : String} (reads : Reads source.toList lexemes)
    (noOpening : ¬Doubles '\x7b' source) (noClosing : ¬Doubles '\x7d' source) :
    (∀ lexeme ∈ lexemes, lexeme.Stays) ↔ ∀ body slot, .slot body slot ∈ lexemes → Bare body := by
  refine ⟨fun stays body slot inside => stays _ inside, fun bare lexeme inside => ?_⟩
  cases lexeme with
  | opening => exact absurd (doubles_of_mem reads inside rfl) noOpening
  | closing => exact absurd (doubles_of_mem reads inside rfl) noClosing
  | plain c => trivial
  | slot body slot => exact bare body slot inside

/-- Each lexeme of a source that parses is rendered at its place. A slot whose argument is missing is
rendered as the pattern prints it, which is how the source writes it just where the spelling has
nothing to spare. So a source without doubled braces comes back from a format without arguments, and
from a render of null, just where all of its slots are spelled so. -/
theorem bare_slots_stay {source : String} {pattern : Pattern} (parsed : parse source = .ok pattern) :
    (∃ lexemes, Reads source.toList lexemes) ∧
    (∀ lexemes, Reads source.toList lexemes →
      lexemes.flatMap Lexeme.written = source.toList ∧
      (∀ arguments,
        (pattern.format arguments).toList = (renderedAll arguments [] lexemes).flatten) ∧
      (∀ arguments place body slot, lexemes[place]? = some (.slot body slot) →
        argument? arguments (lexemes.take place) slot = none →
        (renderedAll arguments [] lexemes)[place]? = some slot.text.toList ∧
          (slot.text.toList = (Lexeme.slot body slot).written ↔ Bare body)) ∧
      (¬Doubles '\x7b' source → ¬Doubles '\x7d' source →
        (pattern.format [] = source ↔ ∀ body slot, .slot body slot ∈ lexemes → Bare body))) ∧
    ∀ label functions, ∃ template, parser.parse label functions source = .ok template ∧
      template.Renders .null (pattern.format []) := by
  refine ⟨exists_parse_iff.mp ⟨pattern, parsed⟩, fun lexemes reads =>
    ⟨reads.flatMap_written, toList_format parsed reads, ?_, ?_⟩, ?_⟩
  · intro arguments place body slot there missing
    obtain ⟨core, trims, spells⟩ := reads.exists_spells (List.mem_of_getElem? there)
    refine ⟨?_, text_eq_written_iff trims spells⟩
    rw [renderedAll, List.getElem?_mapIdx, there, Option.map_some, List.nil_append,
      rendered_of_missing body missing]
  · intro noOpening noClosing
    rw [format_nil_eq_iff parsed reads, stays_iff_of_not_doubles reads noOpening noClosing]
  · intro label functions
    exact ⟨_, parser_parse parsed label functions, renders_format pattern .null⟩

/-- A slot with an index before one for the next argument. -/
def tally : Pattern := ⟨[.slot (.index 1), .literal " of ", .slot .next]⟩

/-- The lexemes of its source. -/
def tallyLexemes : List Lexeme :=
  [.slot ['1'] (.index 1), .plain ' ', .plain 'o', .plain 'f', .plain ' ', .slot [] .next]

/-- The index is past the only argument, so its slot stays, and without arguments both do. -/
theorem short_list_leaves_slots :
    parse "\x7b1\x7d of \x7b\x7d" = .ok tally ∧
      (renderedAll [.int 3] [] tallyLexemes)[0]? = some (Slot.index 1).text.toList ∧
      tally.format [.int 3] = "\x7b1\x7d of 3" ∧
      tally.format [] = "\x7b1\x7d of \x7b\x7d" ∧
      ∃ template, parser.parse "msg" .empty "\x7b1\x7d of \x7b\x7d" = .ok template ∧
        template.Renders .null "\x7b1\x7d of \x7b\x7d" := by
  have parsed : parse "\x7b1\x7d of \x7b\x7d" = .ok tally := by decide +kernel
  have chars : "\x7b1\x7d of \x7b\x7d".toList =
      '\x7b' :: (['1'] ++ '\x7d' :: ' ' :: 'o' :: 'f' :: ' ' :: '\x7b' :: ([] ++ ['\x7d'])) := rfl
  have reads : Reads "\x7b1\x7d of \x7b\x7d".toList tallyLexemes := by
    rw [chars]
    refine .slot (by decide) (by decide) (trims_iff.mpr rfl) (slot?_eq_some_iff.mp (by decide)) ?_
    refine .plain (by decide) (by decide) <| .plain (by decide) (by decide) <|
      .plain (by decide) (by decide) <| .plain (by decide) (by decide) ?_
    exact .slot (by decide) (by decide) (trims_iff.mpr rfl) .next .done
  obtain ⟨-, spelled, made⟩ := bare_slots_stay parsed
  obtain ⟨-, placed, missing, undoubled⟩ := spelled _ reads
  have stays : tally.format [] = "\x7b1\x7d of \x7b\x7d" := by
    refine (undoubled (by decide +kernel) (by decide +kernel)).mpr fun body slot inside => ?_
    simp only [tallyLexemes, List.mem_cons, List.not_mem_nil, or_false, Lexeme.slot.injEq,
      reduceCtorEq, false_or] at inside
    rcases inside with ⟨rfl, -⟩ | ⟨rfl, -⟩ <;> decide
  refine ⟨parsed, ?_, ?_, stays, by simpa only [stays] using made "msg" .empty⟩
  · exact (missing [.int 3] 0 ['1'] (.index 1) rfl rfl).1
  · rw [← String.toList_inj, placed]
    decide

/-- White space around an index is not kept. -/
theorem padded_slot_is_shortened :
    ∃ pattern, parse "\x7b 5 \x7d" = .ok pattern ∧ ¬Doubles '\x7b' "\x7b 5 \x7d" ∧
      ¬Doubles '\x7d' "\x7b 5 \x7d" ∧ pattern.format [] = "\x7b5\x7d" ∧
      pattern.format [] ≠ "\x7b 5 \x7d" := by
  refine ⟨⟨[.slot (.index 5)]⟩, by decide +kernel, by decide +kernel, by decide +kernel, ?_, ?_⟩
  · decide
  · decide

end Pattern

end Templating
