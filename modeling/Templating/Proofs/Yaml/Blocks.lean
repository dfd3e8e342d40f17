import Templating.Proofs.Yaml.Pieces
import Templating.Proofs.Yaml.Settled

/-! Cutting the blocks of a layout. The tokens that end a block are cut with the token after it, so that
up to a place the tokens of a block stand only once the ends of the blocks inside it are added. -/

namespace Templating.Yaml

/-! ### Entries -/

/-- What stands behind a key on its line. -/
inductive Value where
  | word (text : String)
  | list (texts : List String)

namespace Value

def written : Value → String
  | word text => text
  | list texts => inBrackets texts

def isProper : Value → Bool
  | word text => (Key.word text).isProper
  | list texts => texts.all (·.toList.all standsInQuotes)

def tokens : Value → List Token
  | word text => [.scalar text true]
  | list texts => .flowList :: Cutting.textTokens texts

end Value

def Key.tokens (key : Key) : List Token := [.key, .scalar key.text key.isPlain, .value]

/-- Whether a key is not too long for its colon. -/
def Key.isShort (key : Key) : Bool := decide (key.written.toList.length ≤ 1024)

structure Entry where
  key : Key
  value : Value

namespace Entry

def line (entry : Entry) : String := entryLine entry.key.written entry.value.written

def isProper (entry : Entry) : Bool := entry.key.isProper && entry.key.isShort && entry.value.isProper

def tokens (entry : Entry) : List Token := entry.key.tokens ++ entry.value.tokens

theorem toList_line (entry : Entry) :
    entry.line.toList = entry.key.written.toList ++ ':' :: ' ' :: entry.value.written.toList := by
  simp [line, entryLine]

end Entry

/-- A text starts with a character at which a token can start. -/
def Starts (text : List Char) : Prop := ∃ c rest, text = c :: rest ∧ Shows c

theorem Starts.dedents {text : List Char} (starts : Starts text) {count indent : Nat}
    (less : count < indent) :
    Dedents indent (List.replicate count ' ' ++ text) := by
  obtain ⟨c, rest, rfl, shown⟩ := starts
  exact .inr ⟨count, c, rest, rfl, less, shown⟩

theorem Key.starts {key : Key} (proper : key.isProper = true) (rest : List Char) :
    Starts (key.written.toList ++ ':' :: rest) := by
  obtain ⟨-, c, more, spelled, shown, -⟩ := key.startsScalar proper rest
  exact ⟨c, more, spelled, shown⟩

theorem Entry.starts {entry : Entry} (proper : entry.isProper = true) (rest : List Char) :
    Starts (entry.line.toList ++ rest) := by
  simp only [Entry.isProper, Bool.and_eq_true] at proper
  rw [entry.toList_line, List.append_assoc]
  exact entry.key.starts proper.1.1 _

namespace Cutting

variable {tokens before content : List Token} {columns outer : List Nat} {column : Nat} {mark : Mark}
  {token : Token} {rest : List Char}

theorem reaches_value {value : Value} (proper : value.isProper = true)
    (fits : outside columns (mark.column + 1) = columns)
    (dedents : Dedents (columns.head?.elim 0 (· + 1)) rest) :
    Reaches (clear tokens columns false 0 mark (' ' :: (value.written.toList ++ '\n' :: rest)))
      (clear (tokens ++ value.tokens) columns true 0 ⟨mark.line + 1, 0⟩ rest) := by
  cases value with
  | word text => exact reaches_word proper fits dedents
  | list texts =>
    refine reaches_texts texts (fun text there => ?_) fits
    exact List.all_eq_true.mp (List.all_eq_true.mp proper text there)

/-! ### Places in a block -/

/-- A block at a column inside of others has some content up to here. It starts with its first token;
blocks inside it may have ended whose ends have not been cut. -/
def Stands (column : Nat) (token : Token) (outer : List Nat) (before content : List Token)
    (columns : List Nat) (tokens : List Token) : Prop :=
  (content = [] ∧ columns = outer ∧ tokens = before) ∨
    ∃ above, (∀ c ∈ above, column < c) ∧ columns = above ++ column :: outer ∧
      tokens ++ List.replicate above.length .blockEnd = before ++ token :: content

theorem Stands.start : Stands column token outer before [] outer before := .inl ⟨rfl, rfl, rfl⟩

/-- No block inside it is open. -/
theorem Stands.top (column : Nat) (token : Token) (outer : List Nat) (before content : List Token) :
    Stands column token outer before content (column :: outer) (before ++ token :: content) :=
  .inr ⟨[], List.forall_mem_nil _, rfl, by simp⟩

theorem outside_append {above : List Nat} (right : ∀ c ∈ above, column < c) :
    outside (above ++ column :: outer) column = column :: outer := by
  unfold outside
  induction above with
  | nil => exact List.dropWhile_cons_of_neg (by simp)
  | cons c above ih =>
    rw [List.cons_append, List.dropWhile_cons_of_pos (by simpa using right c List.mem_cons_self)]
    exact ih fun d there => right d (List.mem_cons_of_mem c there)

theorem outside_of_head (fits : ∀ c ∈ outer.head?, c < column) : outside outer column = outer := by
  unfold outside
  cases outer with
  | nil => rfl
  | cons c outer =>
    have left : c < column := fits c rfl
    exact List.dropWhile_cons_of_neg (by simp; omega)

/-- A token at the column of a block belongs to it: what is inside it ends, and it starts if it has not
started. -/
theorem Stands.here (stands : Stands column token outer before content columns tokens)
    (fits : ∀ c ∈ outer.head?, c < column) :
    tokens ++ (closing columns column ++ opening token (outside columns column) column) =
        before ++ token :: content ∧
      inside (outside columns column) column = column :: outer := by
  rcases stands with ⟨rfl, rfl, rfl⟩ | ⟨above, right, rfl, ends⟩
  · have same : outside columns column = columns := outside_of_head fits
    have noHead : columns.head?.any (column ≤ ·) = false := by
      cases head : columns.head? with
      | none => rfl
      | some c =>
        have left : c < column := fits c head
        simpa using left
    have none : closing columns column = [] := by
      rw [closing, show columns.dropWhile (column < ·) = columns from same, Nat.sub_self, List.replicate_zero]
    rw [same, none, opening, inside, noHead]
    exact ⟨rfl, rfl⟩
  · have same : outside (above ++ column :: outer) column = column :: outer := outside_append right
    have ended : closing (above ++ column :: outer) column = List.replicate above.length .blockEnd := by
      rw [closing, show (above ++ column :: outer).dropWhile (column < ·) = column :: outer from same]
      simp
    rw [same, ended, opening, inside]
    simpa using ends

/-- A block inside it has ended. -/
theorem Stands.nest {place : Nat} {first : Token} {piece inner : List Token} (right : column < place)
    (some : inner ≠ [])
    (stands : Stands place first (column :: outer) (before ++ token :: (content ++ piece)) inner columns
      tokens) :
    Stands column token outer before (content ++ piece ++ first :: inner ++ [.blockEnd]) columns tokens := by
  rcases stands with ⟨none, -⟩ | ⟨above, further, rfl, ends⟩
  · exact absurd none some
  · refine .inr ⟨above ++ [place], ?_, by simp, ?_⟩
    · intro c there
      rcases List.mem_append.mp there with there | there
      · have := further c there
        omega
      · rwa [List.mem_singleton.mp there]
    · rw [List.length_append, List.length_singleton, List.replicate_succ', ← List.append_assoc, ends]
      simp

/-! ### Entries in a block -/

section Entries

variable (stands : Stands column .blockMap outer before content columns tokens)
  (fits : ∀ c ∈ outer.head?, c < column)

include stands fits

theorem Stands.reaches_key (line : Nat) {key : Key} (proper : key.isProper = true)
    (short : key.isShort = true) (blank : startsBlank rest = true) :
    Reaches (clear tokens columns true 0 ⟨line, column⟩ (key.written.toList ++ ':' :: rest))
      (clear (before ++ .blockMap :: (content ++ key.tokens)) (column :: outer) false 0
        ⟨line, column + key.written.toList.length + 1⟩ rest) := by
  obtain ⟨ends, opens⟩ := stands.here fits
  have reached : Reaches (clear tokens columns true 0 ⟨line, column⟩ (key.written.toList ++ ':' :: rest)) _ :=
    Cutting.reaches_key proper blank (of_decide_eq_true short)
  rw [opens, keyTokens, ← List.append_assoc (closing columns column), ← List.append_assoc tokens, ends]
    at reached
  simpa [Key.tokens] using reached

theorem Stands.reaches_entry (line : Nat) {entry : Entry} (proper : entry.isProper = true)
    (dedents : Dedents (column + 1) rest) :
    Reaches (clear tokens columns true 0 ⟨line, column⟩ (entry.line.toList ++ '\n' :: rest))
      (clear (before ++ .blockMap :: (content ++ entry.tokens)) (column :: outer) true 0 ⟨line + 1, 0⟩
        rest) := by
  simp only [Entry.isProper, Bool.and_eq_true] at proper
  obtain ⟨⟨proper, short⟩, valueProper⟩ := proper
  have key : Reaches (clear tokens columns true 0 ⟨line, column⟩
      (entry.key.written.toList ++ ':' :: ' ' :: (entry.value.written.toList ++ '\n' :: rest))) _ :=
    stands.reaches_key fits line proper short rfl
  have right : outside (column :: outer) (column + entry.key.written.toList.length + 1 + 1) =
      column :: outer := List.dropWhile_cons_of_neg (by simp; omega)
  have value : Reaches (clear (before ++ .blockMap :: (content ++ entry.key.tokens)) (column :: outer) false 0
      ⟨line, column + entry.key.written.toList.length + 1⟩
      (' ' :: (entry.value.written.toList ++ '\n' :: rest))) _ := reaches_value valueProper right dedents
  rw [entry.toList_line]
  simpa [Entry.tokens] using key.trans value

end Entries

/-- Entries on lines of their own, up to the column at which the next one stands. -/
def entryChars (column : Nat) (entries : List Entry) : List Char :=
  entries.flatMap fun entry => entry.line.toList ++ '\n' :: List.replicate column ' '

theorem entryChars_cons (column : Nat) (entry : Entry) (more : List Entry) (rest : List Char) :
    entryChars column (entry :: more) ++ rest =
      entry.line.toList ++ '\n' :: (List.replicate column ' ' ++ (entryChars column more ++ rest)) := by
  simp [entryChars]

theorem Stands.reaches_entries (line : Nat) {entries : List Entry}
    (proper : ∀ entry ∈ entries, entry.isProper = true) (fits : ∀ c ∈ outer.head?, c < column)
    (starts : Starts rest)
    (stands : Stands column .blockMap outer before content columns tokens) :
    ∃ line' columns' tokens',
      Stands column .blockMap outer before (content ++ entries.flatMap Entry.tokens) columns' tokens' ∧
      Reaches (clear tokens columns true 0 ⟨line, column⟩ (entryChars column entries ++ rest))
        (clear tokens' columns' true 0 ⟨line', column⟩ rest) := by
  induction entries generalizing content columns tokens line with
  | nil => exact ⟨line, columns, tokens, by simpa using stands, Reaches.refl _⟩
  | cons entry more ih =>
    have here := proper entry List.mem_cons_self
    have later : ∀ entry ∈ more, entry.isProper = true := fun entry there =>
      proper entry (List.mem_cons_of_mem _ there)
    have further : Starts (entryChars column more ++ rest) := by
      cases more with
      | nil => exact starts
      | cons next more =>
        rw [entryChars_cons]
        exact next.starts (later next List.mem_cons_self) _
    have dedents : Dedents (column + 1)
        (List.replicate column ' ' ++ (entryChars column more ++ rest)) :=
      further.dedents (Nat.lt_succ_self column)
    obtain ⟨line', columns', tokens', stands', reached⟩ :=
      ih (line + 1) later (Stands.top column .blockMap outer before (content ++ entry.tokens))
    refine ⟨line', columns', tokens', by simpa using stands', ?_⟩
    have first := (stands.reaches_entry fits line here dedents).trans (reaches_indent (line + 1) column)
    rw [entryChars_cons]
    exact first.trans reached

/-! ### Items -/

def itemTokens (entries : List Entry) : List Token :=
  .dash :: .blockMap :: (entries.flatMap Entry.tokens ++ [.blockEnd])

theorem Stands.reaches_dash (line : Nat) (stands : Stands 2 .blockList outer before content columns tokens)
    (fits : ∀ c ∈ outer.head?, c < 2) :
    Reaches (clear tokens columns true 0 ⟨line, 0⟩ (' ' :: ' ' :: '-' :: ' ' :: rest))
      (clear (before ++ .blockList :: (content ++ [.dash])) (2 :: outer) true 0 ⟨line, 4⟩ rest) := by
  obtain ⟨ends, opens⟩ := stands.here fits
  have indent : Reaches (clear tokens columns true 0 ⟨line, 0⟩ (' ' :: ' ' :: '-' :: ' ' :: rest))
      (clear tokens columns true 0 ⟨line, 2⟩ ('-' :: ' ' :: rest)) := reaches_indent line 2
  have dash : Reaches (clear tokens columns true 0 ⟨line, 2⟩ ('-' :: ' ' :: rest)) _ := Cutting.reaches_dash
  rw [opens, dashTokens, ← List.append_assoc (closing columns 2), ← List.append_assoc tokens, ends] at dash
  simpa using indent.trans dash

/-- The text of an item up to an entry. -/
def itemChars (entries : List Entry) : List Char := ' ' :: ' ' :: '-' :: ' ' :: entryChars 4 entries

/-- Up to an entry of an item the block of its entries stands. -/
theorem Stands.reaches_item (line : Nat) {entries : List Entry}
    (proper : ∀ entry ∈ entries, entry.isProper = true) (starts : Starts rest)
    (stands : Stands 2 .blockList outer before content columns tokens) (fits : ∀ c ∈ outer.head?, c < 2) :
    ∃ line' columns' tokens',
      Stands 4 .blockMap (2 :: outer) (before ++ .blockList :: (content ++ [.dash]))
        (entries.flatMap Entry.tokens) columns' tokens' ∧
      Reaches (clear tokens columns true 0 ⟨line, 0⟩ (itemChars entries ++ rest))
        (clear tokens' columns' true 0 ⟨line', 4⟩ rest) := by
  have dash : Reaches (clear tokens columns true 0 ⟨line, 0⟩ (itemChars entries ++ rest)) _ :=
    stands.reaches_dash line fits
  have inner : ∀ c ∈ (2 :: outer).head?, c < 4 := by simp
  obtain ⟨line', columns', tokens', stands', reached⟩ :=
    Stands.start.reaches_entries line proper inner starts
  exact ⟨line', columns', tokens', stands', dash.trans reached⟩

def lineChars (line : String) : List Char := line.toList ++ ['\n']

/-- The lines of an item below its first. -/
def indented (lines : List String) : List Char := (lines.map ("    " ++ ·)).flatMap lineChars

theorem indented_cons (line : String) (lines : List String) :
    indented (line :: lines) = List.replicate 4 ' ' ++ (line.toList ++ '\n' :: indented lines) := by
  simp [indented, lineChars]

theorem itemLines_cons (line : String) (lines : List String) :
    (itemLines (line :: lines)).flatMap lineChars =
      ' ' :: ' ' :: '-' :: ' ' :: (line.toList ++ '\n' :: indented lines) := by
  simp [itemLines, indented, lineChars]

theorem indented_append (front : List Entry) (line : String) (back : List String) :
    indented (front.map Entry.line ++ line :: back) =
      List.replicate 4 ' ' ++ (entryChars 4 front ++ (line.toList ++ '\n' :: indented back)) := by
  induction front with
  | nil => exact indented_cons line back
  | cons entry more ih => rw [List.map_cons, List.cons_append, indented_cons, ih, entryChars_cons]

/-- An item up to an entry, and from that on. -/
theorem itemLines_append (front : List Entry) (line : String) (back : List String) :
    (itemLines (front.map Entry.line ++ line :: back)).flatMap lineChars =
      itemChars front ++ (line.toList ++ '\n' :: indented back) := by
  cases front with
  | nil => exact itemLines_cons line back
  | cons entry more =>
    rw [List.map_cons, List.cons_append, itemLines_cons, indented_append, itemChars, List.cons_append,
      List.cons_append, List.cons_append, List.cons_append, entryChars_cons]

def itemText (entries : List Entry) : List Char := (itemLines (entries.map Entry.line)).flatMap lineChars

theorem Stands.reaches_wholeItem (line : Nat) {entries : List Entry} (nonempty : entries ≠ [])
    (proper : ∀ entry ∈ entries, entry.isProper = true) (dedents : Dedents 5 rest)
    (stands : Stands 2 .blockList outer before content columns tokens) (fits : ∀ c ∈ outer.head?, c < 2) :
    ∃ line' columns' tokens',
      Stands 2 .blockList outer before (content ++ itemTokens entries) columns' tokens' ∧
      Reaches (clear tokens columns true 0 ⟨line, 0⟩ (itemText entries ++ rest))
        (clear tokens' columns' true 0 ⟨line', 0⟩ rest) := by
  obtain ⟨front, last, rfl⟩ : ∃ front last, entries = front ++ [last] :=
    ⟨entries.dropLast, entries.getLast nonempty, (List.dropLast_concat_getLast nonempty).symm⟩
  have earlier : ∀ entry ∈ front, entry.isProper = true := fun entry there =>
    proper entry (List.mem_append_left _ there)
  have here : last.isProper = true := proper last (by simp)
  have inner : ∀ c ∈ (2 :: outer).head?, c < 4 := by simp
  obtain ⟨line', columns', tokens', standing, reached⟩ :=
    stands.reaches_item line earlier (last.starts here ('\n' :: rest)) fits
  have ended := reached.trans (standing.reaches_entry inner line' here dedents)
  have nested := Stands.nest (show 2 < 4 by decide) (by simp [Entry.tokens, Key.tokens])
    (Stands.top 4 .blockMap (2 :: outer) (before ++ .blockList :: (content ++ [.dash]))
      (front.flatMap Entry.tokens ++ last.tokens))
  have text : itemText (front ++ [last]) ++ rest = itemChars front ++ (last.line.toList ++ '\n' :: rest) := by
    rw [itemText, List.map_append, List.map_singleton, itemLines_append]
    simp [indented]
  have whole : content ++ itemTokens (front ++ [last]) = content ++ [.dash] ++
      .blockMap :: (front.flatMap Entry.tokens ++ last.tokens) ++ [.blockEnd] := by
    simp [itemTokens]
  rw [text, whole]
  exact ⟨_, _, _, nested, ended⟩

def itemsText (items : List (List Entry)) : List Char := items.flatMap itemText

theorem itemsText_dedents {items : List (List Entry)} (nonempty : ∀ entries ∈ items, entries ≠ [])
    (dedents : Dedents 5 rest) : Dedents 5 (itemsText items ++ rest) := by
  cases items with
  | nil => exact dedents
  | cons entries more =>
    have here := nonempty entries List.mem_cons_self
    cases entries with
    | nil => exact absurd rfl here
    | cons entry entries =>
      have spelled : itemsText ((entry :: entries) :: more) ++ rest =
          List.replicate 2 ' ' ++ '-' :: ' ' :: (entry.line.toList ++
            '\n' :: (indented (entries.map Entry.line) ++ (itemsText more ++ rest))) := by
        simp [itemsText, itemText, itemLines_cons]
      rw [spelled]
      exact .inr ⟨2, '-', _, rfl, by decide, rfl, rfl, by decide⟩

theorem Stands.reaches_items (line : Nat) {items : List (List Entry)}
    (nonempty : ∀ entries ∈ items, entries ≠ [])
    (proper : ∀ entries ∈ items, ∀ entry ∈ entries, entry.isProper = true) (dedents : Dedents 5 rest)
    (stands : Stands 2 .blockList outer before content columns tokens) (fits : ∀ c ∈ outer.head?, c < 2) :
    ∃ line' columns' tokens',
      Stands 2 .blockList outer before (content ++ items.flatMap itemTokens) columns' tokens' ∧
      Reaches (clear tokens columns true 0 ⟨line, 0⟩ (itemsText items ++ rest))
        (clear tokens' columns' true 0 ⟨line', 0⟩ rest) := by
  induction items generalizing content columns tokens line with
  | nil => exact ⟨line, columns, tokens, by simpa using stands, Reaches.refl _⟩
  | cons entries more ih =>
    have later : ∀ entries ∈ more, entries ≠ [] := fun entries there =>
      nonempty entries (List.mem_cons_of_mem _ there)
    obtain ⟨line', columns', tokens', standing, reached⟩ :=
      stands.reaches_wholeItem line (nonempty entries List.mem_cons_self) (proper entries List.mem_cons_self)
        (itemsText_dedents later dedents) fits
    obtain ⟨line'', columns'', tokens'', standing', reached'⟩ :=
      ih line' later (fun entries there => proper entries (List.mem_cons_of_mem _ there)) standing
    refine ⟨line'', columns'', tokens'', by simpa using standing', ?_⟩
    rw [itemsText, List.flatMap_cons, List.append_assoc]
    exact reached.trans reached'

end Cutting

/-! ### Sections -/

/-- A part of a document: an entry of its map on a line of its own, or one with a list of maps below
it. -/
inductive Section where
  | single (entry : Entry)
  | list (key : Key) (items : List (List Entry))

namespace Section

def lines : Section → List String
  | single entry => [entry.line]
  | list key items => (key.written ++ ":") :: items.flatMap fun entries => itemLines (entries.map Entry.line)

def isProper : Section → Bool
  | single entry => entry.isProper
  | list key items => key.isProper && key.isShort && !items.isEmpty &&
      items.all fun entries => !entries.isEmpty && entries.all Entry.isProper

def tokens : Section → List Token
  | single entry => entry.tokens
  | list key items => key.tokens ++ .blockList :: (items.flatMap Cutting.itemTokens ++ [.blockEnd])

def text (part : Section) : List Char := part.lines.flatMap Cutting.lineChars

theorem text_single (entry : Entry) (rest : List Char) :
    (single entry).text ++ rest = entry.line.toList ++ '\n' :: rest := by
  simp [text, lines, Cutting.lineChars]

theorem text_list (key : Key) (items : List (List Entry)) (rest : List Char) :
    (list key items).text ++ rest =
      key.written.toList ++ ':' :: '\n' :: (Cutting.itemsText items ++ rest) := by
  simp [text, lines, Cutting.lineChars, Cutting.itemsText, List.flatMap_assoc]
  rfl

theorem starts {part : Section} (proper : part.isProper = true) (rest : List Char) :
    Starts (part.text ++ rest) := by
  cases part with
  | single entry =>
    rw [text_single]
    exact entry.starts proper _
  | list key items =>
    simp only [isProper, Bool.and_eq_true] at proper
    rw [text_list]
    exact key.starts proper.1.1.1 _

end Section

namespace Cutting

variable {tokens content : List Token} {columns : List Nat} {rest : List Char}

/-- Up to a place among the items below a key the block of the list stands. -/
theorem Stands.reaches_list (line : Nat) {key : Key} {items : List (List Entry)}
    (proper : key.isProper = true) (short : key.isShort = true) (nonempty : ∀ entries ∈ items, entries ≠ [])
    (entriesProper : ∀ entries ∈ items, ∀ entry ∈ entries, entry.isProper = true) (dedents : Dedents 5 rest)
    (stands : Stands 0 .blockMap [] [] content columns tokens) :
    ∃ line' columns' tokens',
      Stands 2 .blockList [0] (.blockMap :: (content ++ key.tokens)) (items.flatMap itemTokens) columns'
        tokens' ∧
      Reaches
        (clear tokens columns true 0 ⟨line, 0⟩
          (key.written.toList ++ ':' :: '\n' :: (itemsText items ++ rest)))
        (clear tokens' columns' true 0 ⟨line', 0⟩ rest) := by
  have head : Reaches
      (clear tokens columns true 0 ⟨line, 0⟩
        (key.written.toList ++ ':' :: '\n' :: (itemsText items ++ rest))) _ :=
    (stands.reaches_key (by simp) line proper short rfl).trans reaches_line
  have fits : ∀ c ∈ [0].head?, c < 2 := by simp
  obtain ⟨line', columns', tokens', standing, reached⟩ :=
    Stands.start.reaches_items (line + 1) nonempty entriesProper dedents fits
  exact ⟨line', columns', tokens', standing, head.trans reached⟩

theorem Stands.reaches_section (line : Nat) {part : Section} (proper : part.isProper = true)
    (dedents : Dedents 1 rest) (stands : Stands 0 .blockMap [] [] content columns tokens) :
    ∃ line' columns' tokens',
      Stands 0 .blockMap [] [] (content ++ part.tokens) columns' tokens' ∧
      Reaches (clear tokens columns true 0 ⟨line, 0⟩ (part.text ++ rest))
        (clear tokens' columns' true 0 ⟨line', 0⟩ rest) := by
  cases part with
  | single entry =>
    rw [Section.text_single]
    exact ⟨_, _, _, Stands.top 0 .blockMap [] [] _, stands.reaches_entry (by simp) line proper dedents⟩
  | list key items =>
    simp only [Section.isProper, Bool.and_eq_true, Bool.not_eq_true', List.all_eq_true,
      List.isEmpty_eq_false_iff] at proper
    obtain ⟨⟨⟨keyProper, short⟩, some⟩, proper⟩ := proper
    obtain ⟨line', columns', tokens', standing, reached⟩ :=
      stands.reaches_list line keyProper short (fun entries there => (proper entries there).1)
        (fun entries there => (proper entries there).2) (dedents.mono (by decide))
    have inner : items.flatMap itemTokens ≠ [] := by
      obtain ⟨entries, more, rfl⟩ := List.exists_cons_of_ne_nil some
      simp [itemTokens]
    have nested : Stands 0 .blockMap [] [] _ columns' tokens' :=
      Stands.nest (show 0 < 2 by decide) inner standing
    rw [Section.text_list]
    refine ⟨line', columns', tokens', ?_, reached⟩
    simpa [Section.tokens] using nested

def sectionsText (parts : List Section) : List Char := parts.flatMap Section.text

theorem sectionsText_dedents {parts : List Section} (proper : ∀ part ∈ parts, part.isProper = true)
    (dedents : Dedents 1 rest) : Dedents 1 (sectionsText parts ++ rest) := by
  cases parts with
  | nil => exact dedents
  | cons part more =>
    have starts := part.starts (proper part List.mem_cons_self) (sectionsText more ++ rest)
    rw [sectionsText, List.flatMap_cons, List.append_assoc]
    exact starts.dedents Nat.zero_lt_one

theorem Stands.reaches_sections (line : Nat) {parts : List Section}
    (proper : ∀ part ∈ parts, part.isProper = true) (dedents : Dedents 1 rest)
    (stands : Stands 0 .blockMap [] [] content columns tokens) :
    ∃ line' columns' tokens',
      Stands 0 .blockMap [] [] (content ++ parts.flatMap Section.tokens) columns' tokens' ∧
      Reaches (clear tokens columns true 0 ⟨line, 0⟩ (sectionsText parts ++ rest))
        (clear tokens' columns' true 0 ⟨line', 0⟩ rest) := by
  induction parts generalizing content columns tokens line with
  | nil => exact ⟨line, columns, tokens, by simpa using stands, Reaches.refl _⟩
  | cons part more ih =>
    have later : ∀ part ∈ more, part.isProper = true := fun part there =>
      proper part (List.mem_cons_of_mem _ there)
    obtain ⟨line', columns', tokens', standing, reached⟩ :=
      stands.reaches_section line (proper part List.mem_cons_self) (sectionsText_dedents later dedents)
    obtain ⟨line'', columns'', tokens'', standing', reached'⟩ := ih line' later standing
    refine ⟨line'', columns'', tokens'', by simpa using standing', ?_⟩
    rw [sectionsText, List.flatMap_cons, List.append_assoc]
    exact reached.trans reached'

end Cutting

end Templating.Yaml
