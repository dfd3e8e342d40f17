import Templating.Proofs.Yaml.Blocks

/-! The tokens of a layout: of a whole one, and of one that goes on in any way behind a key. -/

namespace Templating.Yaml

/-! ### Characters -/

/-- The characters of a layout. -/
def isLaid (c : Char) : Bool := c == '\n' || (decide (0x20 ≤ c.toNat) && decide (c.toNat ≤ 0x7E))

theorem isLaid_of_quotes {c : Char} (stands : standsInQuotes c = true) : isLaid c = true := by
  obtain ⟨low, high, -⟩ := standsInQuotes_iff.mp stands
  simp [isLaid, low, high]

theorem isLaid_of_word {c : Char} (stands : standsInWord c = true) : isLaid c = true := by
  obtain ⟨low, high, -⟩ := standsInWord_iff.mp stands
  simp [isLaid, high]
  omega

theorem ne_of_laid {c : Char} (laid : isLaid c = true) : c ≠ '\r' ∧ c ≠ '\u0085' ∧ c ≠ '\uFEFF' := by
  refine ⟨?_, ?_, ?_⟩ <;> rintro rfl <;> revert laid <;> decide

theorem isAllowed_of_laid {c : Char} (laid : isLaid c = true) : isAllowed c = true := by
  simp only [isLaid, Bool.or_eq_true, beq_iff_eq, Bool.and_eq_true, decide_eq_true_eq] at laid
  rcases laid with rfl | ⟨low, high⟩
  · decide
  · simp [isAllowed, low, high]

theorem unifyBreaks_append {text rest : List Char} (laid : text.all isLaid = true) :
    unifyBreaks (text ++ rest) = text ++ unifyBreaks rest := by
  induction text with
  | nil => rfl
  | cons c text ih =>
    rw [List.all_cons, Bool.and_eq_true] at laid
    obtain ⟨carriage, line, -⟩ := ne_of_laid laid.1
    rw [List.cons_append, unifyBreaks, if_neg (by simp [carriage, line]), ih laid.2, List.cons_append]
    exact fun _ broken => absurd broken carriage

theorem laid_inQuotes {text : String} (quotable : text.toList.all standsInQuotes = true) :
    (inQuotes text).toList.all isLaid = true := by
  have inside : ∀ c ∈ text.toList, isLaid c = true := fun c there =>
    isLaid_of_quotes (List.all_eq_true.mp quotable c there)
  simpa [inQuotes, isLaid] using inside

theorem Key.laid (key : Key) (proper : key.isProper = true) : key.written.toList.all isLaid = true := by
  cases key with
  | quoted text => exact laid_inQuotes proper
  | word text =>
    obtain ⟨-, inWord⟩ := Bool.and_eq_true_iff.mp proper
    exact List.all_eq_true.mpr fun c there => isLaid_of_word (List.all_eq_true.mp inWord c there)

theorem laid_textChars {texts : List String} (quotable : texts.all (·.toList.all standsInQuotes) = true) :
    (Cutting.textChars texts).all isLaid = true := by
  induction texts with
  | nil => rfl
  | cons text more ih =>
    rw [List.all_cons, Bool.and_eq_true] at quotable
    have here := laid_inQuotes quotable.1
    cases more with
    | nil => rw [Cutting.textChars, List.all_append, here]; rfl
    | cons next more =>
      rw [Cutting.textChars, List.all_append, here, List.all_cons, List.all_cons, ih quotable.2]
      · rfl
      · simp

theorem Value.laid {value : Value} (proper : value.isProper = true) :
    value.written.toList.all isLaid = true := by
  cases value with
  | word text => exact (Key.word text).laid proper
  | list texts =>
    rw [written, Cutting.toList_inBrackets, List.all_cons, laid_textChars proper]
    rfl

theorem Entry.laid {entry : Entry} (proper : entry.isProper = true) :
    entry.line.toList.all isLaid = true := by
  simp only [isProper, Bool.and_eq_true] at proper
  rw [toList_line, List.all_append, entry.key.laid proper.1.1, List.all_cons, List.all_cons,
    Value.laid proper.2]
  rfl

namespace Cutting

theorem laid_entryChars (column : Nat) {entries : List Entry}
    (proper : ∀ entry ∈ entries, entry.isProper = true) :
    (entryChars column entries).all isLaid = true := by
  rw [entryChars, List.all_flatMap, List.all_eq_true]
  intro entry there
  have spaces : (List.replicate column ' ').all isLaid = true :=
    List.all_eq_true.mpr fun c among => by rw [List.eq_of_mem_replicate among]; rfl
  rw [List.all_append, Entry.laid (proper entry there), List.all_cons, spaces]
  rfl

theorem laid_indented {lines : List String} (laid : ∀ line ∈ lines, line.toList.all isLaid = true) :
    (indented lines).all isLaid = true := by
  induction lines with
  | nil => rfl
  | cons line more ih =>
    rw [indented_cons, List.all_append, List.all_append, laid line List.mem_cons_self, List.all_cons,
      ih fun line there => laid line (List.mem_cons_of_mem _ there)]
    rfl

theorem laid_itemText {entries : List Entry} (proper : ∀ entry ∈ entries, entry.isProper = true) :
    (itemText entries).all isLaid = true := by
  cases entries with
  | nil => rfl
  | cons entry more =>
    have later : ∀ line ∈ more.map Entry.line, line.toList.all isLaid = true := by
      intro line there
      obtain ⟨later, among, rfl⟩ := List.mem_map.mp there
      exact Entry.laid (proper later (List.mem_cons_of_mem _ among))
    rw [itemText, List.map_cons, itemLines_cons]
    simp only [List.all_cons, List.all_append, Entry.laid (proper entry List.mem_cons_self),
      laid_indented later]
    rfl

theorem laid_itemsText {items : List (List Entry)}
    (proper : ∀ entries ∈ items, ∀ entry ∈ entries, entry.isProper = true) :
    (itemsText items).all isLaid = true := by
  rw [itemsText, List.all_flatMap, List.all_eq_true]
  exact fun entries there => laid_itemText (proper entries there)

end Cutting

theorem Section.laid {part : Section} (proper : part.isProper = true) : part.text.all isLaid = true := by
  cases part with
  | single entry =>
    have spelled := text_single entry []
    rw [List.append_nil] at spelled
    rw [spelled, List.all_append, Entry.laid proper]
    rfl
  | list key items =>
    simp only [isProper, Bool.and_eq_true, List.all_eq_true] at proper
    have spelled := text_list key items []
    rw [List.append_nil, List.append_nil] at spelled
    have below := Cutting.laid_itemsText fun entries there => (proper.2 entries there).2
    rw [spelled, List.all_append, key.laid proper.1.1.1, List.all_cons, List.all_cons, below]
    rfl

theorem laid_sectionsText {parts : List Section} (proper : ∀ part ∈ parts, part.isProper = true) :
    (Cutting.sectionsText parts).all isLaid = true := by
  rw [Cutting.sectionsText, List.all_flatMap, List.all_eq_true]
  exact fun part there => Section.laid (proper part there)

/-! ### No token before the end is its token -/

theorem textEnd_notMem_textTokens (texts : List String) : .textEnd ∉ Cutting.textTokens texts := by
  induction texts with
  | nil => simp [Cutting.textTokens]
  | cons text more ih =>
    cases more with
    | nil => simp [Cutting.textTokens]
    | cons next more => simpa [Cutting.textTokens] using ih

theorem Key.textEnd_notMem (key : Key) : .textEnd ∉ key.tokens := by simp [tokens]

theorem Entry.textEnd_notMem (entry : Entry) : .textEnd ∉ entry.tokens := by
  obtain ⟨key, _ | texts⟩ := entry
  · simp [tokens, Key.tokens, Value.tokens]
  · simpa [tokens, Key.tokens, Value.tokens] using textEnd_notMem_textTokens texts

theorem textEnd_notMem_itemTokens (entries : List Entry) : .textEnd ∉ Cutting.itemTokens entries := by
  simpa [Cutting.itemTokens] using fun entry _ => Entry.textEnd_notMem entry

theorem Section.textEnd_notMem (part : Section) : .textEnd ∉ part.tokens := by
  cases part with
  | single entry => exact entry.textEnd_notMem
  | list key items =>
    simpa [tokens, key.textEnd_notMem] using fun entries _ => textEnd_notMem_itemTokens entries

theorem Section.tokens_ne_nil (part : Section) : part.tokens ≠ [] := by
  cases part with
  | single entry => simp [tokens, Entry.tokens, Key.tokens]
  | list key items => simp [tokens, Key.tokens]

/-! ### Tokens -/

theorem toList_ofLines (lines : List String) : (ofLines lines).toList = lines.flatMap Cutting.lineChars := by
  induction lines with
  | nil => rfl
  | cons line more ih =>
    rw [List.flatMap_cons, ← ih]
    simp [ofLines, Cutting.lineChars]

/-- Tokens start with some expected ones, or the text of them goes wrong before its end. -/
def Begins (expected found : List Token) : Prop := expected <+: found ∨ .textEnd ∉ found

namespace Cutting

variable {tokens before content expected : List Token} {columns outer : List Nat} {column : Nat}
  {text rest : List Char}

theorem start_eq (marked : text.head? ≠ some '\uFEFF') : start text = clear [] [] true 0 ⟨0, 0⟩ text := by
  have cursor : Cursor.start text = ⟨⟨0, 0⟩, text⟩ := by
    unfold Cursor.start
    split
    · exact absurd rfl marked
    · rfl
  rw [start, cursor]
  rfl

theorem keeps_clear {keyAllowed : Bool} {depth : Nat} {mark : Mark} :
    Keeps tokens (clear tokens columns keyAllowed depth mark rest) :=
  ⟨by simp [clear, holding], List.length_reverse.symm, Nat.le_refl _, List.forall_mem_nil _⟩

theorem Stands.textEnd_notMem (stands : Stands column .blockMap outer before content columns tokens)
    (unended : .textEnd ∉ before ++ content) : .textEnd ∉ tokens := by
  rcases stands with ⟨-, -, rfl⟩ | ⟨above, -, -, ends⟩
  · exact fun there => unended (List.mem_append_left _ there)
  · intro there
    have among : Token.textEnd ∈ before ++ .blockMap :: content := ends ▸ List.mem_append_left _ there
    simp only [List.mem_append, List.mem_cons, reduceCtorEq, false_or] at among
    exact unended (List.mem_append.mpr among)

/-- However a text goes on behind the key of an entry, its tokens up to there are the same. -/
theorem Stands.begins_key (stands : Stands column .blockMap outer before content columns tokens)
    (fits : ∀ c ∈ outer.head?, c < column) (unended : .textEnd ∉ before ++ content) (line : Nat) {key : Key}
    (proper : key.isProper = true) {fuel : Nat}
    (enough : (key.written.toList ++ ':' :: ' ' :: rest).length ≤ fuel) :
    Begins (before ++ .blockMap :: (content ++ key.tokens))
      ((clear tokens columns true 0 ⟨line, column⟩ (key.written.toList ++ ':' :: ' ' :: rest)).run fuel) := by
  by_cases short : key.isShort = true
  · have reached : Reaches
        (clear tokens columns true 0 ⟨line, column⟩ (key.written.toList ++ ':' :: ' ' :: rest)) _ :=
      stands.reaches_key fits line proper short rfl
    obtain ⟨fewer, -, same⟩ := reached.run_eq enough
    refine .inl ?_
    rw [same]
    exact run_keeps keeps_clear fewer
  · refine .inr ?_
    have absent := stands.textEnd_notMem unended
    have long : 1024 < key.written.toList.length := by simpa [Key.isShort] using short
    have blank : startsBlank (' ' :: rest) = true := rfl
    rcases run_longKey proper blank long fuel with same | same
    · rw [same]
      exact absent
    · rw [same]
      simpa [closing] using absent

end Cutting

open Cutting

theorem spelled_sections (parts : List Section) :
    (ofLines (parts.flatMap Section.lines)).toList = sectionsText parts := by
  rw [toList_ofLines, List.flatMap_assoc]
  rfl

/-- The tokens of a layout. -/
theorem tokens_layout {parts : List Section} (nonempty : parts ≠ [])
    (proper : ∀ part ∈ parts, part.isProper = true) :
    tokens (ofLines (parts.flatMap Section.lines)) =
      .blockMap :: (parts.flatMap Section.tokens ++ [.blockEnd, .textEnd]) := by
  have laid := laid_sectionsText proper
  have unified : unifyBreaks (sectionsText parts) = sectionsText parts := by
    have added : unifyBreaks (sectionsText parts ++ []) = _ := unifyBreaks_append laid
    simpa [unifyBreaks] using added
  have allowed : (sectionsText parts).all isAllowed = true :=
    List.all_eq_true.mpr fun c there => isAllowed_of_laid (List.all_eq_true.mp laid c there)
  have marked : (sectionsText parts).head? ≠ some '\uFEFF' := fun head =>
    (ne_of_laid (List.all_eq_true.mp laid _ (List.mem_of_mem_head? head))).2.2 rfl
  obtain ⟨line, columns, known, stands, reached⟩ := Stands.start.reaches_sections 0 proper (.inl rfl)
  rw [List.append_nil] at reached
  rw [tokens, spelled_sections, unified, if_pos allowed, start_eq marked]
  obtain ⟨fewer, enough, same⟩ := reached.run_eq (show (sectionsText parts).length ≤ _ from Nat.le_succ _)
  obtain ⟨fuel, rfl⟩ : ∃ fuel, fewer = fuel + 1 := ⟨fewer - 1, by simp [clear] at enough; omega⟩
  rw [same, run_end]
  rcases stands with ⟨none, -⟩ | ⟨above, -, rfl, ends⟩
  · obtain ⟨part, more, rfl⟩ := List.exists_cons_of_ne_nil nonempty
    rw [List.nil_append, List.flatMap_cons] at none
    exact absurd (List.append_eq_nil_iff.mp none).1 part.tokens_ne_nil
  · rw [List.length_append, List.length_singleton, List.replicate_succ', ← List.append_assoc,
      ← List.append_assoc, ends]
    simp

/-- Tokens of a text that starts as a layout does. -/
theorem begins_of_reaches {source : String} {text : List Char} (rest : List Char) {expected : List Token}
    (laid : text.all isLaid = true) (nonempty : text ≠ []) (spelled : source.toList = text ++ rest)
    (reached : ∀ rest, ∃ s, Reaches (clear [] [] true 0 ⟨0, 0⟩ (text ++ rest)) s ∧
      ∀ fuel, s.cursor.rest.length ≤ fuel → Begins expected (s.run fuel)) :
    Begins expected (tokens source) := by
  rw [tokens, spelled, unifyBreaks_append laid]
  split
  · obtain ⟨s, reached, begins⟩ := reached (unifyBreaks rest)
    have marked : (text ++ unifyBreaks rest).head? ≠ some '\uFEFF' := by
      obtain ⟨c, more, rfl⟩ := List.exists_cons_of_ne_nil nonempty
      rw [List.all_cons, Bool.and_eq_true] at laid
      simpa using (ne_of_laid laid.1).2.2
    rw [start_eq marked]
    obtain ⟨fewer, enough, same⟩ :=
      reached.run_eq (show (text ++ unifyBreaks rest).length ≤ _ from Nat.le_succ _)
    rw [same]
    exact begins fewer (by omega)
  · exact .inr List.not_mem_nil

variable {source : String} {parts : List Section} {name key : Key} {items : List (List Entry)}
  {front : List Entry} {rest : List Char}

/-- The tokens of a text that goes on in any way behind the key of a section. -/
theorem begins_section (earlier : ∀ part ∈ parts, part.isProper = true) (proper : key.isProper = true)
    (spelled : source.toList = sectionsText parts ++ (key.written.toList ++ ':' :: ' ' :: rest)) :
    Begins (.blockMap :: (parts.flatMap Section.tokens ++ key.tokens)) (tokens source) := by
  have laid : (sectionsText parts ++ (key.written.toList ++ [':', ' '])).all isLaid = true := by
    rw [List.all_append, List.all_append, laid_sectionsText earlier, key.laid proper]
    rfl
  refine begins_of_reaches rest laid (by simp) (by simpa using spelled) fun rest => ?_
  have dedents : Dedents 1 (key.written.toList ++ ':' :: ' ' :: rest) :=
    (key.starts proper (' ' :: rest)).dedents Nat.zero_lt_one
  obtain ⟨line, columns, known, stands, reached⟩ := Stands.start.reaches_sections 0 earlier dedents
  refine ⟨_, by simpa using reached, fun fuel enough => ?_⟩
  have unended : Token.textEnd ∉ [] ++ ([] ++ parts.flatMap Section.tokens) := by
    simpa using fun part _ => Section.textEnd_notMem part
  exact stands.begins_key (by simp) unended line proper enough

/-- The tokens of a text that goes on in any way behind the key of an entry of an item. -/
theorem begins_item (earlier : ∀ part ∈ parts, part.isProper = true) (nameProper : name.isProper = true)
    (short : name.isShort = true) (nonempty : ∀ entries ∈ items, entries ≠ [])
    (itemsProper : ∀ entries ∈ items, ∀ entry ∈ entries, entry.isProper = true)
    (frontProper : ∀ entry ∈ front, entry.isProper = true) (proper : key.isProper = true)
    (spelled : source.toList = sectionsText parts ++ (name.written.toList ++ ':' :: '\n' ::
      (itemsText items ++ (itemChars front ++ (key.written.toList ++ ':' :: ' ' :: rest))))) :
    Begins (.blockMap :: (parts.flatMap Section.tokens ++ name.tokens ++ .blockList ::
      (items.flatMap itemTokens ++ .dash :: .blockMap :: (front.flatMap Entry.tokens ++ key.tokens))))
      (tokens source) := by
  have laid : (sectionsText parts ++ (name.written.toList ++ ':' :: '\n' ::
      (itemsText items ++ (itemChars front ++ (key.written.toList ++ [':', ' ']))))).all isLaid = true := by
    simp only [List.all_append, List.all_cons, laid_sectionsText earlier, name.laid nameProper,
      laid_itemsText itemsProper, itemChars, laid_entryChars 4 frontProper, key.laid proper]
    rfl
  refine begins_of_reaches rest laid (by simp) (by simpa using spelled) fun rest => ?_
  have starts : Starts (key.written.toList ++ ':' :: ' ' :: rest) := key.starts proper (' ' :: rest)
  have dedents : Dedents 5 (itemChars front ++ (key.written.toList ++ ':' :: ' ' :: rest)) :=
    .inr ⟨2, '-', _, rfl, by decide, rfl, rfl, by decide⟩
  have nameDedents : Dedents 1 (name.written.toList ++ ':' :: '\n' ::
      (itemsText items ++ (itemChars front ++ (key.written.toList ++ ':' :: ' ' :: rest)))) :=
    (name.starts nameProper _).dedents Nat.zero_lt_one
  have fits : ∀ c ∈ [0].head?, c < 2 := by simp
  obtain ⟨line, columns, known, stands, reached⟩ := Stands.start.reaches_sections 0 earlier nameDedents
  obtain ⟨line', columns', known', stands', reached'⟩ :=
    stands.reaches_list line nameProper short nonempty itemsProper dedents
  obtain ⟨line'', columns'', known'', stands'', reached''⟩ :=
    stands'.reaches_item line' frontProper starts fits
  refine ⟨_, by simpa using (reached.trans reached').trans reached'', fun fuel enough => ?_⟩
  have unended : Token.textEnd ∉ .blockMap :: ([] ++ parts.flatMap Section.tokens ++ name.tokens) ++
      .blockList :: (items.flatMap itemTokens ++ [.dash]) ++ front.flatMap Entry.tokens := by
    simpa [name.textEnd_notMem] using
      ⟨fun part _ => Section.textEnd_notMem part, fun entries _ => textEnd_notMem_itemTokens entries,
        fun entry _ => Entry.textEnd_notMem entry⟩
  simpa using stands''.begins_key (by simp) unended line'' proper enough

end Templating.Yaml
