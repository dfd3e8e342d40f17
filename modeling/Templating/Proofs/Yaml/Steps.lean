import Mathlib.Data.List.TakeWhile
import Templating.Proofs.Yaml.Scalars

/-! Steps of cutting: what is cut at the marks of a layout, from a place on at which no candidate is
held back. -/

namespace Templating.Yaml.Cutting

variable {s s' after : Cutting} {tokens : List Token} {columns : List Nat} {keyAllowed : Bool}
  {depth settled : Nat} {candidates : List Candidate} {mark : Mark} {c : Char} {rest : List Char}

/-! ### Runs -/

/-- Cutting gets from one state to another with no more steps than characters. -/
def Reaches (s after : Cutting) : Prop :=
  ∃ steps, steps + after.cursor.rest.length ≤ s.cursor.rest.length ∧
    ∀ fuel, s.run (steps + fuel) = after.run fuel

theorem Reaches.trans {s t u : Cutting} (first : Reaches s t) (second : Reaches t u) : Reaches s u := by
  obtain ⟨m, few, reached⟩ := first
  obtain ⟨n, few', reached'⟩ := second
  refine ⟨m + n, by omega, fun fuel => ?_⟩
  rw [Nat.add_assoc, reached, reached']

theorem Reaches.refl (s : Cutting) : Reaches s s :=
  ⟨0, by omega, fun fuel => by rw [Nat.zero_add]⟩

/-- With fuel for all characters the run goes on with fuel for those that are left, and what is left
over stays. -/
theorem Reaches.run_eq {t : Cutting} {fuel : Nat} (reached : Reaches s t)
    (enough : s.cursor.rest.length ≤ fuel) :
    ∃ fewer, t.cursor.rest.length + (fuel - s.cursor.rest.length) ≤ fewer ∧ s.run fuel = t.run fewer := by
  obtain ⟨steps, few, reached⟩ := reached
  refine ⟨fuel - steps, by omega, ?_⟩
  rw [← reached, Nat.add_sub_cancel' (by omega)]

/-- States that pass to the same state have the same run. -/
theorem run_congr (next : s.next = s'.next) (settled : s.settledTokens = s'.settledTokens) (fuel : Nat) :
    s.run fuel = s'.run fuel := by
  cases fuel with
  | zero => exact settled
  | succ fuel => rw [run, run, cut, cut, next, settled]

theorem Reaches.of_next (next : s.next = after.next) (settled : s.settledTokens = after.settledTokens)
    (shorter : after.cursor.rest.length ≤ s.cursor.rest.length) : Reaches s after :=
  ⟨0, by omega, fun fuel => by rw [Nat.zero_add, run_congr next settled]⟩

/-- One step, after which white space may have been passed already that still stands before `after`. -/
theorem Reaches.of_cut_next {t : Cutting} (step : s.cut.bind settle = some t)
    (going : t.tokens.head? ≠ some .textEnd) (next : t.next = after.next)
    (settled : t.settledTokens = after.settledTokens)
    (shorter : after.cursor.rest.length < s.cursor.rest.length) : Reaches s after := by
  refine ⟨1, by omega, fun fuel => ?_⟩
  rw [Nat.add_comm, run, step]
  simp only [if_neg going]
  exact run_congr next settled fuel

theorem Reaches.of_cut (step : s.cut.bind settle = some after) (going : after.tokens.head? ≠ some .textEnd)
    (shorter : after.cursor.rest.length < s.cursor.rest.length) : Reaches s after :=
  Reaches.of_cut_next step going rfl rfl shorter

/-! ### States -/

/-- A state that holds tokens. -/
def holding (tokens : List Token) (settled : Nat) (columns : List Nat) (keyAllowed : Bool) (depth : Nat)
    (candidates : List Candidate) (mark : Mark) (rest : List Char) : Cutting :=
  ⟨⟨mark, rest⟩, tokens.reverse, tokens.length, settled, columns, keyAllowed, depth, candidates⟩

/-- A state in which no token is held back. -/
def clear (tokens : List Token) (columns : List Nat) (keyAllowed : Bool) (depth : Nat) (mark : Mark)
    (rest : List Char) : Cutting :=
  holding tokens tokens.length columns keyAllowed depth [] mark rest

@[simp] theorem cursor_holding :
    (holding tokens settled columns keyAllowed depth candidates mark rest).cursor = ⟨mark, rest⟩ := rfl

@[simp] theorem count_holding :
    (holding tokens settled columns keyAllowed depth candidates mark rest).count = tokens.length := rfl

@[simp] theorem keyAllowed_holding :
    (holding tokens settled columns keyAllowed depth candidates mark rest).keyAllowed = keyAllowed := rfl

@[simp] theorem isFlow_holding :
    (holding tokens settled columns keyAllowed depth candidates mark rest).isFlow = decide (0 < depth) := rfl

theorem settledTokens_clear : (clear tokens columns keyAllowed depth mark rest).settledTokens = tokens := by
  simp [clear, holding, settledTokens]

theorem emit_holding (token : Token) :
    (holding tokens settled columns keyAllowed depth candidates mark rest).emit token =
      holding (tokens ++ [token]) settled columns keyAllowed depth candidates mark rest := by
  simp [holding, emit]

theorem insert_holding (later : List Token) (token : Token) :
    (holding (tokens ++ later) settled columns keyAllowed depth candidates mark rest).insert tokens.length
        token =
      holding (tokens ++ token :: later) settled columns keyAllowed depth candidates mark rest := by
  have count : (tokens ++ later).length - tokens.length = later.reverse.length := by simp
  simp only [holding, insert, count, List.reverse_append]
  rw [List.take_left, List.drop_left]
  simp
  omega

/-- The tokens with which blocks end before a column. -/
def closing (columns : List Nat) (column : Nat) : List Token :=
  List.replicate (columns.length - (columns.dropWhile (column < ·)).length) .blockEnd

/-- The blocks that do not end before a column. -/
def outside (columns : List Nat) (column : Nat) : List Nat := columns.dropWhile (column < ·)

theorem outside_outside {first second : Nat} (right : first ≤ second) :
    outside (outside columns first) second = outside columns first := by
  unfold outside
  induction columns with
  | nil => rfl
  | cons column columns ih =>
    by_cases closes : first < column
    · rwa [List.dropWhile_cons_of_pos (by simpa using closes)]
    · rw [List.dropWhile_cons_of_neg (by simpa using closes),
        List.dropWhile_cons_of_neg (by simp; omega)]

theorem closing_outside {first second : Nat} (right : first ≤ second) :
    closing (outside columns first) second = [] := by
  have same : (outside columns first).dropWhile (second < ·) = outside columns first :=
    outside_outside right
  rw [closing, same, Nat.sub_self, List.replicate_zero]

/-- The token with which a block starts at a column, if it does. -/
def opening (token : Token) (columns : List Nat) (column : Nat) : List Token :=
  if columns.head?.any (column ≤ ·) then [] else [token]

/-- The blocks that are open once a block stands at a column. -/
def inside (columns : List Nat) (column : Nat) : List Nat :=
  if columns.head?.any (column ≤ ·) then columns else column :: columns

theorem openBlock_holding (later : List Token) (token : Token) (column : Nat) :
    (holding (tokens ++ later) settled columns keyAllowed 0 candidates mark rest).openBlock token column
        tokens.length =
      holding (tokens ++ (opening token columns column ++ later)) settled (inside columns column) keyAllowed 0
        candidates mark rest := by
  rw [openBlock, opening, inside]
  by_cases still : columns.head?.any (column ≤ ·) = true
  · rw [if_pos (.inr still), if_pos still, if_pos still, List.nil_append]
  · rw [if_neg (by simpa [holding, isFlow] using still), if_neg still, if_neg still, insert_holding]
    rfl

theorem openBlock_last (token : Token) (column : Nat) :
    (holding tokens settled columns keyAllowed 0 candidates mark rest).openBlock token column tokens.length =
      holding (tokens ++ opening token columns column) settled (inside columns column) keyAllowed 0
        candidates mark rest := by
  have added : (holding (tokens ++ []) settled columns keyAllowed 0 candidates mark rest).openBlock token
      column tokens.length = _ := openBlock_holding [] token column
  rwa [List.append_nil, List.append_nil] at added

theorem closeBlocks_holding (column : Nat) :
    (holding tokens settled columns keyAllowed 0 candidates mark rest).closeBlocks (column < ·) =
      holding (tokens ++ closing columns column) settled (outside columns column) keyAllowed 0 candidates mark
        rest := by
  simp [holding, closeBlocks, isFlow, closing, outside]

theorem dropWhile_true (columns : List Nat) : columns.dropWhile (fun _ => true) = [] := by
  induction columns with
  | nil => rfl
  | cons column columns ih => rwa [List.dropWhile_cons_of_pos rfl]

theorem closeBlocks_all : (holding tokens settled columns keyAllowed 0 candidates mark rest).closeBlocks
      (fun _ => true) =
    holding (tokens ++ List.replicate columns.length .blockEnd) settled [] keyAllowed 0 candidates mark
      rest := by
  simp [holding, closeBlocks, isFlow, dropWhile_true]

theorem dropStale_holding (fresh : ∀ candidate ∈ candidates, candidate.isStale mark = false) :
    (holding tokens settled columns keyAllowed depth candidates mark rest).dropStale =
      some (holding tokens settled columns keyAllowed depth candidates mark rest) := by
  have all : candidates.takeWhile (!·.isStale mark) = candidates :=
    List.takeWhile_eq_self_iff.mpr fun candidate there => by simp [fresh candidate there]
  simp [holding, dropStale, all]

theorem settle_clear (count : Nat) :
    (holding tokens count columns keyAllowed depth [] mark rest).settle =
      some (clear tokens columns keyAllowed depth mark rest) := by
  simp [settle, dropStale, holding, clear]

theorem dropCandidate_none :
    (holding tokens settled columns keyAllowed depth [] mark rest).dropCandidate =
      some (holding tokens settled columns keyAllowed depth [] mark rest) := rfl

/-- A candidate holds back the token before which that of its key would stand, and all after it. -/
theorem settle_candidate {candidate : Candidate} (fresh : candidate.isStale mark = false) :
    (holding tokens settled columns keyAllowed depth [candidate] mark rest).settle =
      some (holding tokens candidate.number columns keyAllowed depth [candidate] mark rest) := by
  have dropped : (holding tokens settled columns keyAllowed depth [candidate] mark rest).dropStale =
      some _ := dropStale_holding fun other there => by rwa [List.mem_singleton.mp there]
  exact congrArg (·.bind fun s => some { s with settled := s.candidates.getLast?.elim s.count (·.number) })
    dropped

theorem settle_stale {candidate : Candidate} (stale : candidate.isStale mark = true) :
    (holding tokens settled columns keyAllowed depth [candidate] mark rest).settle =
      if candidate.required then none else some (clear tokens columns keyAllowed depth mark rest) := by
  by_cases required : candidate.required = true
  · simp [settle, dropStale, holding, stale, required]
  · simp [settle, dropStale, holding, clear, stale, required]

/-! ### Scalars -/

/-- A scalar is a candidate where a key may stand. -/
theorem cutScalar_candidate {scalar : Scalar}
    (read : scalar? (decide (0 < depth)) (columns.head?.elim 0 (· + 1)) ⟨mark, rest⟩ = some scalar) :
    (holding tokens settled columns true depth [] mark rest).cutScalar =
      some (holding (tokens ++ [.scalar scalar.text scalar.plain]) settled columns scalar.endsLine depth
        [⟨tokens.length, depth, mark, !decide (0 < depth) && columns.head? == some mark.column⟩]
        scalar.cursor.mark scalar.cursor.rest) := by
  simp [cutScalar, markCandidate, dropCandidate, candidate?, holding, isFlow, emit, read]

theorem cutScalar_value {scalar : Scalar}
    (read : scalar? (decide (0 < depth)) (columns.head?.elim 0 (· + 1)) ⟨mark, rest⟩ = some scalar) :
    (holding tokens settled columns false depth candidates mark rest).cutScalar =
      some (holding (tokens ++ [.scalar scalar.text scalar.plain]) settled columns scalar.endsLine depth
        candidates scalar.cursor.mark scalar.cursor.rest) := by
  simp [cutScalar, markCandidate, holding, isFlow, emit, read]

/-- At the colon behind a candidate the token of its key is added, and that of the block that starts
with it. -/
theorem cutValue_candidate {place : Mark} {required : Bool} (later : List Token) :
    (holding (tokens ++ later) settled columns keyAllowed 0 [⟨tokens.length, 0, place, required⟩] mark
        (':' :: rest)).cutValue =
      some (holding (tokens ++ (opening .blockMap columns place.column ++ .key :: later) ++ [.value]) settled
        (inside columns place.column) false 0 [] ⟨mark.line, mark.column + 1⟩ rest) := by
  have candidate : (holding (tokens ++ later) settled columns keyAllowed 0
      [⟨tokens.length, 0, place, required⟩] mark (':' :: rest)).candidate? =
      some ⟨tokens.length, 0, place, required⟩ := rfl
  rw [cutValue, candidate]
  simp only [insert_holding, openBlock_holding]
  rw [← emit_holding]
  rfl

/-! ### Marks -/

theorem cutOpening_holding :
    (holding tokens settled columns false depth candidates mark (c :: rest)).cutOpening .flowList =
      some (holding (tokens ++ [.flowList]) settled columns true (depth + 1) candidates
        ⟨mark.line, mark.column + 1⟩ rest) :=
  congrArg some (emit_holding .flowList)

section Drop

variable (dropped :
  (holding tokens settled columns keyAllowed depth candidates mark (c :: rest)).dropCandidate =
    some (holding tokens settled columns keyAllowed depth [] mark (c :: rest)))

include dropped

theorem cutClosing_holding :
    (holding tokens settled columns keyAllowed depth candidates mark (c :: rest)).cutClosing .flowListEnd =
      some (holding (tokens ++ [.flowListEnd]) settled columns false (depth - 1) []
        ⟨mark.line, mark.column + 1⟩ rest) := by
  rw [cutClosing, dropped]
  exact congrArg some (emit_holding .flowListEnd)

theorem cutComma_holding :
    (holding tokens settled columns keyAllowed depth candidates mark (c :: rest)).cutComma =
      some (holding (tokens ++ [.comma]) settled columns true depth [] ⟨mark.line, mark.column + 1⟩
        rest) := by
  rw [cutComma, dropped]
  exact congrArg some (emit_holding .comma)

end Drop

/-- A dash starts a list where none stands at its column. -/
theorem cutDash_holding :
    (holding tokens settled columns true 0 [] mark (c :: rest)).cutDash =
      some (holding (tokens ++ (opening .blockList columns mark.column ++ [.dash])) settled
        (inside columns mark.column) true 0 [] ⟨mark.line, mark.column + 1⟩ rest) := by
  rw [cutDash, if_pos (.inr rfl)]
  simp only [cursor_holding, count_holding, openBlock_last, dropCandidate_none]
  rw [← List.append_assoc, ← emit_holding]
  rfl

/-! ### Going on to the next token -/

/-- Outside of brackets the blocks end that stand further right than the next token. -/
theorem next_block {allowed : Bool} {place : Mark} {more : List Char}
    (passed : passFrom false keyAllowed mark rest = (⟨place, more⟩, allowed))
    (fresh : ∀ candidate ∈ candidates, candidate.isStale place = false) :
    (holding tokens settled columns keyAllowed 0 candidates mark rest).next =
      some (holding (tokens ++ closing columns place.column) settled (outside columns place.column) allowed 0
        candidates place more) := by
  have dropped : (holding tokens settled columns allowed 0 candidates place more).dropStale = some _ :=
    dropStale_holding fresh
  rw [← closeBlocks_holding, next]
  simp only [isFlow_holding, cursor_holding, keyAllowed_holding, Nat.lt_irrefl, decide_false, passed]
  exact congrArg (·.bind fun s => some (s.closeBlocks (place.column < ·))) dropped

/-- Between brackets no block ends. -/
theorem next_flow {allowed : Bool} {place : Mark} {more : List Char} (flow : 0 < depth)
    (passed : passFrom true keyAllowed mark rest = (⟨place, more⟩, allowed))
    (fresh : ∀ candidate ∈ candidates, candidate.isStale place = false) :
    (holding tokens settled columns keyAllowed depth candidates mark rest).next =
      some (holding tokens settled columns allowed depth candidates place more) := by
  have dropped : (holding tokens settled columns allowed depth candidates place more).dropStale = some _ :=
    dropStale_holding fresh
  have kept : (holding tokens settled columns allowed depth candidates place more).closeBlocks
      (place.column < ·) = holding tokens settled columns allowed depth candidates place more := by
    rw [closeBlocks, if_pos (by simpa using flow)]
  rw [next]
  simp only [isFlow_holding, cursor_holding, keyAllowed_holding, flow, decide_true, passed]
  refine (congrArg (·.bind fun s => some (s.closeBlocks (place.column < ·))) dropped).trans ?_
  exact congrArg some kept

/-- Where the same is passed, the next state is the same. -/
theorem next_congr {keyAllowed' : Bool} {mark' : Mark} {rest' : List Char}
    (same : passFrom (decide (0 < depth)) keyAllowed mark rest =
      passFrom (decide (0 < depth)) keyAllowed' mark' rest') :
    (clear tokens columns keyAllowed depth mark rest).next =
      (clear tokens columns keyAllowed' depth mark' rest').next := by
  simp only [clear, next, isFlow_holding, cursor_holding, keyAllowed_holding, same]
  rfl

/-! ### What is cut -/

/-- The characters at which no scalar starts, but for `-`, `?` and `:` before a visible one. -/
def tokenMarks : List Char := ['%', '[', ']', '\x7b', '\x7d', ',', '-', '?', ':']

section Dispatch

variable (passed : s.next = some s')

include passed

theorem cut_end (cursor : s'.cursor.rest = []) : s.cut = s'.finish := by
  rw [cut, passed]
  simp [cursor]

theorem cut_scalar (cursor : s'.cursor.rest = c :: rest)
    (unmarked : s'.cursor.mark.column = 0 → startsMark (c :: rest) = false)
    (special : ∀ d ∈ tokenMarks, c ≠ d) :
    s.cut = s'.cutScalar := by
  rw [cut, passed]
  simp only [tokenMarks, List.forall_mem_cons] at special
  simp only [Option.bind_eq_bind, Option.bind_some, cursor]
  rw [if_neg (by simp [special]), if_neg (by simpa using unmarked)]
  simp [special]

theorem cut_colon (cursor : s'.cursor.rest = ':' :: rest) (blank : startsBlank rest = true) :
    s.cut = s'.cutValue := by
  rw [cut, passed]
  simp [cursor, startsMark, blank]

theorem cut_dash (cursor : s'.cursor.rest = '-' :: ' ' :: rest) : s.cut = s'.cutDash := by
  rw [cut, passed]
  simp [cursor, startsMark, startsBlank, isBlank]

theorem cut_bracket (cursor : s'.cursor.rest = '[' :: rest) : s.cut = s'.cutOpening .flowList := by
  rw [cut, passed]
  simp [cursor, startsMark]

theorem cut_closingBracket (cursor : s'.cursor.rest = ']' :: rest) :
    s.cut = s'.cutClosing .flowListEnd := by
  rw [cut, passed]
  simp [cursor, startsMark]

theorem cut_comma (cursor : s'.cursor.rest = ',' :: rest) : s.cut = s'.cutComma := by
  rw [cut, passed]
  simp [cursor, startsMark]

end Dispatch

end Templating.Yaml.Cutting
