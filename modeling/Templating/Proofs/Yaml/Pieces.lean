import Templating.Proofs.Yaml.Steps

/-! Cutting the pieces of a layout: keys, words, lists of texts, dashes, and the white space between
them. -/

namespace Templating.Yaml

open Cutting (tokenMarks)

/-! ### The first character of a key -/

/-- A text starts with a visible character at which a scalar is cut, wherever it stands on its line. -/
def StartsScalar (text : List Char) : Prop :=
  startsMark text = false ∧ ∃ c rest, text = c :: rest ∧ Shows c ∧ ∀ d ∈ tokenMarks, c ≠ d

theorem Key.ne_of_unmarked {c : Char} (unmarked : isIndicator c = false) : ∀ d ∈ tokenMarks, c ≠ d := by
  have marks : tokenMarks.all isIndicator = true := by decide
  rintro d marked rfl
  rw [List.all_eq_true.mp marks c marked] at unmarked
  cases unmarked

theorem quote_ne_mark : ∀ d ∈ tokenMarks, '"' ≠ d := by
  have apart : '"' ∉ tokenMarks := by decide
  rintro d marked rfl
  exact apart marked

theorem startsMark_word {c : Char} {more rest : List Char} (unmarked : isIndicator c = false)
    (inWord : ∀ d ∈ c :: more, standsInWord d = true) : startsMark (c :: (more ++ ':' :: rest)) = false := by
  unfold startsMark
  split
  · rename_i spelled
    obtain ⟨rfl, -⟩ := List.cons.inj spelled
    exact absurd unmarked (by decide)
  · -- a word goes on after three dots, or its colon follows
    rename_i later spelled
    obtain ⟨rfl, spelled⟩ := List.cons.inj spelled
    rcases more with _ | ⟨d, _ | ⟨e, more⟩⟩
    · cases spelled
    · cases spelled
    · have ends : d = '.' ∧ e = '.' ∧ more ++ ':' :: rest = later := by simpa using spelled
      rw [← ends.2.2]
      cases more with
      | nil => rfl
      | cons d more =>
        obtain ⟨low, high, -⟩ := standsInWord_iff.mp (inWord d (by simp))
        have unbroken : isBreak d = false := isBreak_of_ascii (by omega) high
        simp [startsBlank, isBlank_of_visible low, unbroken]
  · rfl

theorem Key.startsScalar {key : Key} (proper : key.isProper = true) (rest : List Char) :
    StartsScalar (key.written.toList ++ ':' :: rest) := by
  cases key with
  | quoted text =>
    have spelled : (Key.quoted text).written.toList ++ ':' :: rest =
        '"' :: (text.toList ++ '"' :: ':' :: rest) := by
      simp [written, inQuotes]
    rw [spelled]
    exact ⟨rfl, _, _, rfl, ⟨rfl, rfl, by decide⟩, quote_ne_mark⟩
  | word text =>
    obtain ⟨c, more, spelled, unmarked, inWord⟩ := exists_of_word proper
    have shown := shows_of_word (inWord c List.mem_cons_self) unmarked
    rw [written, spelled]
    exact ⟨startsMark_word unmarked inWord, c, _, rfl, shown, ne_of_unmarked unmarked⟩

theorem Key.written_ne_nil {key : Key} (proper : key.isProper = true) : key.written.toList ≠ [] := by
  cases key with
  | quoted text => simp [written, inQuotes]
  | word text =>
    obtain ⟨c, more, spelled, -⟩ := exists_of_word proper
    rw [written, spelled]
    exact List.cons_ne_nil c more

namespace Cutting

variable {tokens : List Token} {columns : List Nat} {keyAllowed : Bool} {depth : Nat} {mark : Mark}
  {rest : List Char}

/-! ### White space -/

theorem reaches_spaces (count : Nat) :
    Reaches (clear tokens columns keyAllowed depth mark (List.replicate count ' ' ++ rest))
      (clear tokens columns keyAllowed depth ⟨mark.line, mark.column + count⟩ rest) := by
  refine Reaches.of_next (next_congr (passFrom_spaces count)) ?_ (by simp [clear])
  rw [settledTokens_clear, settledTokens_clear]

theorem reaches_space : Reaches (clear tokens columns keyAllowed depth mark (' ' :: rest))
    (clear tokens columns keyAllowed depth ⟨mark.line, mark.column + 1⟩ rest) := reaches_spaces 1

theorem reaches_indent (line count : Nat) :
    Reaches (clear tokens columns keyAllowed depth ⟨line, 0⟩ (List.replicate count ' ' ++ rest))
      (clear tokens columns keyAllowed depth ⟨line, count⟩ rest) := by
  have reached : Reaches
      (clear tokens columns keyAllowed depth ⟨line, 0⟩ (List.replicate count ' ' ++ rest)) _ :=
    reaches_spaces count
  rwa [Nat.zero_add] at reached

/-- At the end of a line a key may stand again. -/
theorem reaches_line : Reaches (clear tokens columns keyAllowed 0 mark ('\n' :: rest))
    (clear tokens columns true 0 ⟨mark.line + 1, 0⟩ rest) := by
  refine Reaches.of_next (next_congr ?_) ?_ (by simp [clear])
  · rw [decide_eq_false (Nat.lt_irrefl 0), passFrom_newline, Bool.not_false, Bool.or_true]
  · rw [settledTokens_clear, settledTokens_clear]

/-! ### Keys -/

/-- The tokens of a key, and of the block that starts with it, after those of the blocks that end before
it. -/
def keyTokens (columns : List Nat) (column : Nat) (key : Key) : List Token :=
  closing columns column ++ (opening .blockMap (outside columns column) column ++
    [.key, .scalar key.text key.isPlain, .value])

/-- What holds back a key until its colon follows. -/
def keyCandidate (tokens : List Token) (columns : List Nat) (mark : Mark) : Candidate :=
  ⟨(tokens ++ closing columns mark.column).length, 0, mark,
    (outside columns mark.column).head? == some mark.column⟩

section Keys

variable {key : Key} (proper : key.isProper = true) (blank : startsBlank rest = true)

include proper blank

theorem cut_written : (clear tokens columns true 0 mark (key.written.toList ++ ':' :: rest)).cut =
    some (holding (tokens ++ closing columns mark.column ++ [.scalar key.text key.isPlain]) tokens.length
      (outside columns mark.column) false 0 [keyCandidate tokens columns mark]
      ⟨mark.line, mark.column + key.written.toList.length⟩ (':' :: rest)) := by
  obtain ⟨unmarked, c, more, spelled, shown, special⟩ := key.startsScalar proper rest
  have passed : passFrom false true mark (key.written.toList ++ ':' :: rest) =
      (⟨mark, key.written.toList ++ ':' :: rest⟩, true) := by
    rw [spelled]
    exact passFrom_shows shown
  have next : (clear tokens columns true 0 mark (key.written.toList ++ ':' :: rest)).next = some _ :=
    next_block passed (List.forall_mem_nil _)
  have read : scalar? (decide (0 < 0)) ((outside columns mark.column).head?.elim 0 (· + 1))
      ⟨mark, key.written.toList ++ ':' :: rest⟩ = some _ := key.scalar?_written proper blank
  rw [cut_scalar next spelled (fun _ => spelled ▸ unmarked) special]
  exact cutScalar_candidate read

/-- A key that is no longer than 1024 characters is cut with its colon. -/
theorem reaches_key (short : key.written.toList.length ≤ 1024) :
    Reaches (clear tokens columns true 0 mark (key.written.toList ++ ':' :: rest))
      (clear (tokens ++ keyTokens columns mark.column key)
        (inside (outside columns mark.column) mark.column) false 0
        ⟨mark.line, mark.column + key.written.toList.length + 1⟩ rest) := by
  have fresh : (keyCandidate tokens columns mark).isStale
      ⟨mark.line, mark.column + key.written.toList.length⟩ = false := by
    simp [keyCandidate, Candidate.isStale]
    omega
  have scalar : Reaches (clear tokens columns true 0 mark (key.written.toList ++ ':' :: rest))
      (holding (tokens ++ closing columns mark.column ++ [.scalar key.text key.isPlain])
        (tokens ++ closing columns mark.column).length (outside columns mark.column) false 0
        [keyCandidate tokens columns mark] ⟨mark.line, mark.column + key.written.toList.length⟩
        (':' :: rest)) := by
    refine Reaches.of_cut ?_ (by simp [holding]) ?_
    · rw [cut_written proper blank]
      exact settle_candidate fresh
    · have := List.length_pos_iff.mpr (key.written_ne_nil proper)
      simp [clear]
      omega
  have colon : passFrom false false ⟨mark.line, mark.column + key.written.toList.length⟩ (':' :: rest) =
      (⟨⟨mark.line, mark.column + key.written.toList.length⟩, ':' :: rest⟩, false) :=
    passFrom_shows ⟨rfl, rfl, by decide⟩
  have next : (holding (tokens ++ closing columns mark.column ++ [.scalar key.text key.isPlain])
      (tokens ++ closing columns mark.column).length (outside columns mark.column) false 0
      [keyCandidate tokens columns mark] ⟨mark.line, mark.column + key.written.toList.length⟩
      (':' :: rest)).next = some _ :=
    next_block colon fun candidate there => by rw [List.mem_singleton.mp there]; exact fresh
  rw [closing_outside (by simp), outside_outside (by simp), List.append_nil] at next
  refine scalar.trans (Reaches.of_cut ?_ (by simp [clear, holding, keyTokens]) (by simp [clear]))
  rw [cut_colon next rfl blank, keyCandidate, cutValue_candidate]
  refine (settle_clear _).trans ?_
  simp [keyTokens]

/-- A longer key is no key: cutting stops before it or behind it. -/
theorem run_longKey (long : 1024 < key.written.toList.length) (fuel : Nat) :
    (clear tokens columns true 0 mark (key.written.toList ++ ':' :: rest)).run fuel = tokens ∨
      (clear tokens columns true 0 mark (key.written.toList ++ ':' :: rest)).run fuel =
        tokens ++ closing columns mark.column ++ [.scalar key.text key.isPlain] := by
  have stale : (keyCandidate tokens columns mark).isStale
      ⟨mark.line, mark.column + key.written.toList.length⟩ = true := by
    simp [keyCandidate, Candidate.isStale, long]
  cases fuel with
  | zero => exact .inl settledTokens_clear
  | succ fuel =>
    rw [run, cut_written proper blank, Option.bind_some, settle_stale stale]
    by_cases required : (keyCandidate tokens columns mark).required = true
    · rw [if_pos required]
      exact .inl settledTokens_clear
    · rw [if_neg required]
      simp only
      rw [if_neg (by simp [clear, holding])]
      cases fuel with
      | zero => exact .inr settledTokens_clear
      | succ fuel =>
        have next : (clear (tokens ++ closing columns mark.column ++ [.scalar key.text key.isPlain])
            (outside columns mark.column) false 0 ⟨mark.line, mark.column + key.written.toList.length⟩
            (':' :: rest)).next = some _ :=
          next_block (passFrom_shows ⟨rfl, rfl, by decide⟩) (List.forall_mem_nil _)
        rw [run, cut_colon next rfl blank]
        exact .inr settledTokens_clear

end Keys

/-! ### Values -/

/-- What precedes a value moves no block. -/
theorem next_value (fits : outside columns (mark.column + 1) = columns) {text : List Char}
    {c : Char} {more : List Char} (spelled : text = c :: more) (shown : Shows c) :
    (clear tokens columns false 0 mark (' ' :: text)).next =
      some (clear tokens columns false 0 ⟨mark.line, mark.column + 1⟩ text) := by
  have passed : passFrom false false mark (' ' :: text) =
      (⟨⟨mark.line, mark.column + 1⟩, text⟩, false) := by
    rw [passFrom_space, spelled]
    exact passFrom_shows shown
  have closed : closing columns (mark.column + 1) = [] := by
    rw [← fits]
    exact closing_outside (Nat.le_refl _)
  have next : (clear tokens columns false 0 mark (' ' :: text)).next = some _ :=
    next_block passed (List.forall_mem_nil _)
  rw [fits, closed, List.append_nil] at next
  exact next

/-- A word is cut with the end of its line. -/
theorem reaches_word {text : String} (proper : (Key.word text).isProper = true)
    (fits : outside columns (mark.column + 1) = columns)
    (dedents : Dedents (columns.head?.elim 0 (· + 1)) rest) :
    Reaches (clear tokens columns false 0 mark (' ' :: (text.toList ++ '\n' :: rest)))
      (clear (tokens ++ [.scalar text true]) columns true 0 ⟨mark.line + 1, 0⟩ rest) := by
  obtain ⟨c, more, spelled, unmarked, inWord⟩ := Key.exists_of_word proper
  have shown := shows_of_word (inWord c List.mem_cons_self) unmarked
  have first : text.toList ++ '\n' :: rest = c :: (more ++ '\n' :: rest) := by rw [spelled]; rfl
  have next : (clear tokens columns false 0 mark (' ' :: (text.toList ++ '\n' :: rest))).next = some _ :=
    next_value fits first shown
  have read : scalar? (decide (0 < 0)) (columns.head?.elim 0 (· + 1))
      ⟨⟨mark.line, mark.column + 1⟩, text.toList ++ '\n' :: rest⟩ = some _ := Key.scalar?_line proper dedents
  obtain ⟨place, more', passed, again⟩ := dedents.passFrom_again ⟨mark.line + 1, 0⟩
  rw [passed] at read
  have same : (clear (tokens ++ [.scalar text true]) columns true 0 place more').next =
      (clear (tokens ++ [.scalar text true]) columns true 0 ⟨mark.line + 1, 0⟩ rest).next :=
    next_congr (by rw [decide_eq_false (Nat.lt_irrefl 0), again, passed])
  have cut : (clear tokens columns false 0 mark (' ' :: (text.toList ++ '\n' :: rest))).cut =
      some (holding (tokens ++ [.scalar text true]) tokens.length columns true 0 [] place more') :=
    (cut_scalar next first (by simp [clear]) (Key.ne_of_unmarked unmarked)).trans (cutScalar_value read)
  refine Reaches.of_cut_next (t := clear (tokens ++ [.scalar text true]) columns true 0 place more') ?_ ?_
    ?_ ?_ ?_
  · rw [cut, Option.bind_some, settle_clear]
  · simp [clear, holding]
  · exact same
  · rw [settledTokens_clear, settledTokens_clear]
  · simp [clear]
    omega

/-! ### Lists of texts -/

/-- What may hold back a text between brackets: no key need follow. -/
def Droppable (candidates : List Candidate) (mark : Mark) : Prop :=
  candidates = [] ∨ ∃ number place, candidates = [⟨number, 1, place, false⟩] ∧
    Candidate.isStale ⟨number, 1, place, false⟩ mark = false

theorem Droppable.fresh {candidates : List Candidate} (droppable : Droppable candidates mark) :
    ∀ candidate ∈ candidates, candidate.isStale mark = false := by
  rcases droppable with rfl | ⟨number, place, rfl, fresh⟩
  · exact List.forall_mem_nil _
  · intro candidate there
    rwa [List.mem_singleton.mp there]

theorem Droppable.dropCandidate {candidates : List Candidate} (droppable : Droppable candidates mark)
    (settled : Nat) :
    (holding tokens settled columns keyAllowed 1 candidates mark rest).dropCandidate =
      some (holding tokens settled columns keyAllowed 1 [] mark rest) := by
  rcases droppable with rfl | ⟨number, place, rfl, -⟩
  · rfl
  · rfl

/-- A text between brackets is cut, and a comma or a bracket may follow. -/
theorem reaches_text (tokens : List Token) (columns : List Nat) (mark : Mark) (rest : List Char)
    {text : String} (quotable : ∀ c ∈ text.toList, standsInQuotes c = true) :
    ∃ settled candidates, Droppable candidates ⟨mark.line, mark.column + (inQuotes text).toList.length⟩ ∧
      Reaches (clear tokens columns true 1 mark ((inQuotes text).toList ++ rest))
        (holding (tokens ++ [.scalar text false]) settled columns false 1 candidates
          ⟨mark.line, mark.column + (inQuotes text).toList.length⟩ rest) := by
  have spelled : (inQuotes text).toList ++ rest = '"' :: (text.toList ++ '"' :: rest) := by
    simp [inQuotes]
  have passed : passFrom true true mark ((inQuotes text).toList ++ rest) =
      (⟨mark, (inQuotes text).toList ++ rest⟩, true) := by
    rw [spelled]
    exact passFrom_shows ⟨rfl, rfl, by decide⟩
  have next : (clear tokens columns true 1 mark ((inQuotes text).toList ++ rest)).next = some _ :=
    next_flow Nat.one_pos passed (List.forall_mem_nil _)
  have read : scalar? (decide (0 < 1)) (columns.head?.elim 0 (· + 1))
      ⟨mark, (inQuotes text).toList ++ rest⟩ = some _ := scalar?_quoted quotable
  have cut : (clear tokens columns true 1 mark ((inQuotes text).toList ++ rest)).cut =
      some (holding (tokens ++ [.scalar text false]) tokens.length columns false 1
        [⟨tokens.length, 1, mark, false⟩] ⟨mark.line, mark.column + (inQuotes text).toList.length⟩ rest) :=
    (cut_scalar next spelled (fun _ => rfl) quote_ne_mark).trans (cutScalar_candidate read)
  have shorter : rest.length < ((inQuotes text).toList ++ rest).length := by
    rw [spelled]
    simp
    omega
  cases stale : Candidate.isStale ⟨tokens.length, 1, mark, false⟩
      ⟨mark.line, mark.column + (inQuotes text).toList.length⟩ with
  | false =>
    refine ⟨tokens.length, _, .inr ⟨_, _, rfl, stale⟩, Reaches.of_cut ?_ (by simp [holding]) shorter⟩
    rw [cut, Option.bind_some, settle_candidate stale]
  | true =>
    refine ⟨(tokens ++ [Token.scalar text false]).length, [], .inl rfl,
      Reaches.of_cut ?_ (by simp [holding]) shorter⟩
    rw [cut, Option.bind_some, settle_stale stale, if_neg Bool.false_ne_true]
    rfl

theorem Droppable.reaches_comma {candidates : List Candidate} {settled : Nat}
    (droppable : Droppable candidates mark) :
    Reaches (holding tokens settled columns keyAllowed 1 candidates mark (',' :: ' ' :: rest))
      (clear (tokens ++ [.comma]) columns true 1 ⟨mark.line, mark.column + 1 + 1⟩ rest) := by
  have next : (holding tokens settled columns keyAllowed 1 candidates mark (',' :: ' ' :: rest)).next =
      some _ := next_flow Nat.one_pos (passFrom_shows ⟨rfl, rfl, by decide⟩) droppable.fresh
  have comma : Reaches (holding tokens settled columns keyAllowed 1 candidates mark (',' :: ' ' :: rest))
      (clear (tokens ++ [.comma]) columns true 1 ⟨mark.line, mark.column + 1⟩ (' ' :: rest)) := by
    refine Reaches.of_cut ?_ (by simp [clear, holding]) (by simp [clear])
    rw [cut_comma next rfl, cutComma_holding (droppable.dropCandidate settled), Option.bind_some,
      settle_clear]
  exact comma.trans reaches_space

theorem Droppable.reaches_bracket {candidates : List Candidate} {settled : Nat}
    (droppable : Droppable candidates mark) :
    Reaches (holding tokens settled columns keyAllowed 1 candidates mark (']' :: rest))
      (clear (tokens ++ [.flowListEnd]) columns false 0 ⟨mark.line, mark.column + 1⟩ rest) := by
  have next : (holding tokens settled columns keyAllowed 1 candidates mark (']' :: rest)).next = some _ :=
    next_flow Nat.one_pos (passFrom_shows ⟨rfl, rfl, by decide⟩) droppable.fresh
  refine Reaches.of_cut ?_ (by simp [clear, holding]) (by simp [clear])
  rw [cut_closingBracket next rfl, cutClosing_holding (droppable.dropCandidate settled), Option.bind_some,
    settle_clear]

/-- The tokens of texts up to the bracket behind them. -/
def textTokens : List String → List Token
  | [] => [.flowListEnd]
  | [text] => [.scalar text false, .flowListEnd]
  | text :: more => .scalar text false :: .comma :: textTokens more

/-- Texts as they are written up to the bracket behind them. -/
def textChars : List String → List Char
  | [] => [']']
  | [text] => (inQuotes text).toList ++ [']']
  | text :: more => (inQuotes text).toList ++ ',' :: ' ' :: textChars more

theorem toList_commaSeparated (texts : List String) :
    (Text.commaSeparated (texts.map inQuotes)).toList ++ [']'] = textChars texts := by
  induction texts with
  | nil => rfl
  | cons text more ih =>
    cases more with
    | nil => simp [Text.commaSeparated, textChars]
    | cons next more =>
      rw [textChars, ← ih]
      · simp [Text.commaSeparated, String.intercalate_cons_cons]
      · simp

theorem toList_inBrackets (texts : List String) :
    (inBrackets texts).toList = '[' :: textChars texts := by
  rw [← toList_commaSeparated]
  simp [inBrackets]

theorem reaches_textChars (texts : List String)
    (quotable : ∀ text ∈ texts, ∀ c ∈ text.toList, standsInQuotes c = true) :
    ∃ column, Reaches (clear tokens columns true 1 mark (textChars texts ++ rest))
      (clear (tokens ++ textTokens texts) columns false 0 ⟨mark.line, column⟩ rest) := by
  induction texts generalizing tokens mark with
  | nil => exact ⟨_, Droppable.reaches_bracket (.inl rfl)⟩
  | cons text more ih =>
    have here := quotable text List.mem_cons_self
    cases more with
    | nil =>
      obtain ⟨settled, candidates, droppable, reached⟩ :=
        reaches_text tokens columns mark (']' :: rest) here
      have ends := reached.trans droppable.reaches_bracket
      rw [List.append_assoc] at ends
      rw [textChars, List.append_assoc]
      exact ⟨_, ends⟩
    | cons next more =>
      obtain ⟨settled, candidates, droppable, reached⟩ :=
        reaches_text tokens columns mark (',' :: ' ' :: (textChars (next :: more) ++ rest)) here
      obtain ⟨column, further⟩ := ih fun text there => quotable text (List.mem_cons_of_mem _ there)
      have all := (reached.trans droppable.reaches_comma).trans further
      rw [List.append_assoc, List.append_assoc] at all
      refine ⟨column, ?_⟩
      rw [textChars, List.append_assoc, textTokens]
      · exact all
      · simp
      · simp

/-- A list of texts is cut between its brackets. -/
theorem reaches_texts (texts : List String)
    (quotable : ∀ text ∈ texts, ∀ c ∈ text.toList, standsInQuotes c = true)
    (fits : outside columns (mark.column + 1) = columns) :
    Reaches (clear tokens columns false 0 mark (' ' :: ((inBrackets texts).toList ++ '\n' :: rest)))
      (clear (tokens ++ .flowList :: textTokens texts) columns true 0 ⟨mark.line + 1, 0⟩ rest) := by
  have spelled : (inBrackets texts).toList ++ '\n' :: rest = '[' :: (textChars texts ++ '\n' :: rest) := by
    rw [toList_inBrackets, List.cons_append]
  have next : (clear tokens columns false 0 mark (' ' :: '[' :: (textChars texts ++ '\n' :: rest))).next =
      some _ := next_value fits rfl ⟨rfl, rfl, by decide⟩
  have bracket : Reaches (clear tokens columns false 0 mark (' ' :: '[' :: (textChars texts ++ '\n' :: rest)))
      (clear (tokens ++ [.flowList]) columns true 1 ⟨mark.line, mark.column + 1 + 1⟩
        (textChars texts ++ '\n' :: rest)) := by
    refine Reaches.of_cut ?_ (by simp [clear, holding]) ?_
    · rw [cut_bracket next rfl, clear, cutOpening_holding, Option.bind_some]
      exact settle_clear _
    · simp only [clear, cursor_holding, List.length_cons]
      omega
  obtain ⟨column, reached⟩ := reaches_textChars texts quotable
  have all := (bracket.trans reached).trans reaches_line
  rw [List.append_assoc] at all
  rw [spelled]
  exact all

/-! ### Dashes -/

/-- The tokens of a dash, and of the list that starts with it, after those of the blocks that end before
it. -/
def dashTokens (columns : List Nat) (column : Nat) : List Token :=
  closing columns column ++ (opening .blockList (outside columns column) column ++ [.dash])

theorem reaches_dash : Reaches (clear tokens columns true 0 mark ('-' :: ' ' :: rest))
    (clear (tokens ++ dashTokens columns mark.column)
      (inside (outside columns mark.column) mark.column) true 0 ⟨mark.line, mark.column + 1 + 1⟩ rest) := by
  have next : (clear tokens columns true 0 mark ('-' :: ' ' :: rest)).next = some _ :=
    next_block (passFrom_shows ⟨rfl, rfl, by decide⟩) (List.forall_mem_nil _)
  have dash : Reaches (clear tokens columns true 0 mark ('-' :: ' ' :: rest))
      (clear (tokens ++ dashTokens columns mark.column)
        (inside (outside columns mark.column) mark.column) true 0 ⟨mark.line, mark.column + 1⟩
        (' ' :: rest)) := by
    refine Reaches.of_cut ?_ (by simp [clear, holding, dashTokens]) (by simp [clear])
    rw [cut_dash next rfl, cutDash_holding, Option.bind_some, settle_clear, dashTokens, List.append_assoc]
  exact dash.trans reaches_space

/-! ### The end -/

theorem closing_append (columns : List Nat) (column : Nat) :
    closing columns column ++ List.replicate (outside columns column).length .blockEnd =
      List.replicate columns.length .blockEnd := by
  have shorter : (outside columns column).length ≤ columns.length := List.length_dropWhile_le ..
  rw [closing, List.replicate_append_replicate]
  exact congrArg (List.replicate · Token.blockEnd) (Nat.sub_add_cancel shorter)

/-- At the end of a text all blocks end. -/
theorem run_end (fuel : Nat) : (clear tokens columns keyAllowed 0 mark []).run (fuel + 1) =
    tokens ++ (List.replicate columns.length .blockEnd ++ [.textEnd]) := by
  have next : (clear tokens columns keyAllowed 0 mark []).next = some _ :=
    next_block rfl (List.forall_mem_nil _)
  obtain ⟨place, ended⟩ : ∃ place, (clear tokens columns keyAllowed 0 mark []).cut.bind settle =
      some (clear (tokens ++ (List.replicate columns.length .blockEnd ++ [.textEnd])) [] keyAllowed 0 place
        []) := by
    rw [cut_end next rfl, finish, closeBlocks_all, dropCandidate_none]
    simp only [emit_holding, Option.bind_eq_bind, Option.bind_some]
    rw [List.append_assoc, closing_append, List.append_assoc]
    exact ⟨_, settle_clear _⟩
  rw [run, ended]
  simp only
  rw [if_pos (by simp [clear, holding]), settledTokens_clear]

end Cutting

end Templating.Yaml
