import Templating.Yaml.Cutting

/-! The tokens that have settled do not change any more. Cutting adds tokens at the end, or before the
tokens of a candidate, and no candidate stands before a token that has settled. -/

namespace Templating.Yaml.Cutting

/-- Some tokens are the first ones and have settled. -/
structure Keeps (kept : List Token) (s : Cutting) : Prop where
  first : kept <+: s.tokens.reverse
  counted : s.count = s.tokens.length
  settled : kept.length ≤ s.settled
  candidates : ∀ candidate ∈ s.candidates, kept.length ≤ candidate.number

namespace Keeps

variable {kept : List Token} {s after : Cutting}

theorem length_le (keeps : Keeps kept s) : kept.length ≤ s.count := by
  have shorter := keeps.first.length_le
  rw [List.length_reverse] at shorter
  rw [keeps.counted]
  exact shorter

theorem allowKey (keeps : Keeps kept s) (keyAllowed : Bool) : Keeps kept (s.allowKey keyAllowed) :=
  ⟨keeps.first, keeps.counted, keeps.settled, keeps.candidates⟩

theorem skip (keeps : Keeps kept s) (count : Nat) : Keeps kept (s.skip count) :=
  ⟨keeps.first, keeps.counted, keeps.settled, keeps.candidates⟩

theorem candidatesSubset (keeps : Keeps kept s) {candidates : List Candidate}
    (subset : candidates ⊆ s.candidates) : Keeps kept { s with candidates } :=
  ⟨keeps.first, keeps.counted, keeps.settled, fun c there => keeps.candidates c (subset there)⟩

/-! ### Adding tokens -/

theorem emit (keeps : Keeps kept s) (token : Token) : Keeps kept (s.emit token) := by
  refine ⟨?_, ?_, keeps.settled, keeps.candidates⟩
  · rw [Cutting.emit, List.reverse_cons]
    exact keeps.first.trans (List.prefix_append ..)
  · rw [Cutting.emit, List.length_cons, keeps.counted]

theorem insert (keeps : Keeps kept s) (token : Token) {number : Nat} (later : kept.length ≤ number) :
    Keeps kept (s.insert number token) := by
  refine ⟨?_, ?_, keeps.settled, keeps.candidates⟩
  · -- what has settled stands behind the tokens that are taken off
    have split : s.tokens.reverse = (s.tokens.drop (s.count - number)).reverse ++
        (s.tokens.take (s.count - number)).reverse := by
      rw [← List.reverse_append, List.take_append_drop]
    have short : kept.length ≤ (s.tokens.drop (s.count - number)).reverse.length := by
      have := keeps.length_le
      rw [List.length_reverse, List.length_drop, ← keeps.counted]
      omega
    have first := keeps.first
    rw [split] at first
    have among := List.prefix_of_prefix_length_le first (List.prefix_append ..) short
    rw [Cutting.insert, List.reverse_append, List.reverse_cons, List.append_assoc]
    exact among.trans (List.prefix_append ..)
  · simp only [Cutting.insert, List.length_append, List.length_cons, List.length_take,
      List.length_drop, keeps.counted]
    omega

theorem openBlock (keeps : Keeps kept s) (token : Token) (column : Nat) {number : Nat}
    (later : kept.length ≤ number) :
    Keeps kept (s.openBlock token column number) := by
  rw [Cutting.openBlock]
  split
  · exact keeps
  · have inserted := keeps.insert token later
    exact ⟨inserted.first, inserted.counted, inserted.settled, inserted.candidates⟩

theorem closeBlocks (keeps : Keeps kept s) (closes : Nat → Bool) :
    Keeps kept (s.closeBlocks closes) := by
  rw [Cutting.closeBlocks]
  split
  · exact keeps
  · refine ⟨?_, ?_, keeps.settled, keeps.candidates⟩
    · rw [List.reverse_append]
      exact keeps.first.trans (List.prefix_append ..)
    · rw [List.length_append, List.length_replicate, keeps.counted, Nat.add_comm]

/-! ### Candidates -/

theorem dropStale (keeps : Keeps kept s) (dropped : s.dropStale = some after) : Keeps kept after := by
  rw [Cutting.dropStale] at dropped
  split at dropped
  · cases dropped
  · cases dropped
    exact keeps.candidatesSubset (List.takeWhile_subset _)

theorem dropCandidate (keeps : Keeps kept s) (dropped : s.dropCandidate = some after) :
    Keeps kept after := by
  rw [Cutting.dropCandidate] at dropped
  split at dropped
  · split at dropped
    · cases dropped
    · cases dropped
      exact keeps.candidatesSubset (List.drop_subset ..)
  · cases dropped
    exact keeps

theorem markCandidate (keeps : Keeps kept s) (marked : s.markCandidate = some after) :
    Keeps kept after := by
  rw [Cutting.markCandidate] at marked
  split at marked
  · obtain ⟨s', dropped, ⟨⟩⟩ := Option.bind_eq_some_iff.mp marked
    have keeps' := keeps.dropCandidate dropped
    refine ⟨keeps'.first, keeps'.counted, keeps'.settled, fun candidate there => ?_⟩
    rcases List.mem_cons.mp there with rfl | there
    · exact keeps'.length_le
    · exact keeps'.candidates candidate there
  · cases marked
    exact keeps

/-! ### Steps -/

theorem next (keeps : Keeps kept s) (passed : s.next = some after) : Keeps kept after := by
  obtain ⟨s', dropped, ⟨⟩⟩ := Option.bind_eq_some_iff.mp passed
  have moved : Keeps kept { s with
      cursor := (passFrom s.isFlow s.keyAllowed s.cursor.mark s.cursor.rest).1
      keyAllowed := (passFrom s.isFlow s.keyAllowed s.cursor.mark s.cursor.rest).2 } :=
    ⟨keeps.first, keeps.counted, keeps.settled, keeps.candidates⟩
  exact (moved.dropStale dropped).closeBlocks _

theorem finish (keeps : Keeps kept s) (ended : s.finish = some after) : Keeps kept after := by
  obtain ⟨s', dropped, ⟨⟩⟩ := Option.bind_eq_some_iff.mp ended
  have keeps' := ((keeps.closeBlocks _).dropCandidate dropped).emit .textEnd
  exact ⟨keeps'.first, keeps'.counted, keeps'.settled, keeps'.candidates⟩

theorem cutMark (keeps : Keeps kept s) {token : Token} (cut : s.cutMark token = some after) :
    Keeps kept after := by
  obtain ⟨s', dropped, ⟨⟩⟩ := Option.bind_eq_some_iff.mp cut
  exact ((((keeps.closeBlocks _).dropCandidate dropped).allowKey false).skip 3).emit _

theorem cutOpening (keeps : Keeps kept s) {token : Token} (cut : s.cutOpening token = some after) :
    Keeps kept after := by
  obtain ⟨s', marked, ⟨⟩⟩ := Option.bind_eq_some_iff.mp cut
  have keeps' := keeps.markCandidate marked
  have deeper : Keeps kept { s' with depth := s'.depth + 1 } :=
    ⟨keeps'.first, keeps'.counted, keeps'.settled, keeps'.candidates⟩
  exact ((deeper.allowKey true).skip 1).emit _

theorem cutClosing (keeps : Keeps kept s) {token : Token} (cut : s.cutClosing token = some after) :
    Keeps kept after := by
  obtain ⟨s', dropped, ⟨⟩⟩ := Option.bind_eq_some_iff.mp cut
  have keeps' := keeps.dropCandidate dropped
  have outer : Keeps kept { s' with depth := s'.depth - 1 } :=
    ⟨keeps'.first, keeps'.counted, keeps'.settled, keeps'.candidates⟩
  exact ((outer.allowKey false).skip 1).emit _

theorem cutComma (keeps : Keeps kept s) (cut : s.cutComma = some after) : Keeps kept after := by
  obtain ⟨s', dropped, ⟨⟩⟩ := Option.bind_eq_some_iff.mp cut
  exact (((keeps.dropCandidate dropped).allowKey true).skip 1).emit _

theorem cutDash (keeps : Keeps kept s) (cut : s.cutDash = some after) : Keeps kept after := by
  rw [Cutting.cutDash] at cut
  split at cut
  · obtain ⟨s', dropped, ⟨⟩⟩ := Option.bind_eq_some_iff.mp cut
    have opened := keeps.openBlock .blockList s.cursor.mark.column keeps.length_le
    exact (((opened.dropCandidate dropped).allowKey true).skip 1).emit _
  · cases cut

theorem cutKey (keeps : Keeps kept s) (cut : s.cutKey = some after) : Keeps kept after := by
  rw [Cutting.cutKey] at cut
  split at cut
  · obtain ⟨s', dropped, ⟨⟩⟩ := Option.bind_eq_some_iff.mp cut
    have opened := keeps.openBlock .blockMap s.cursor.mark.column keeps.length_le
    exact (((opened.dropCandidate dropped).allowKey _).skip 1).emit _
  · cases cut

theorem candidate? (keeps : Keeps kept s) {candidate : Candidate}
    (there : s.candidate? = some candidate) : kept.length ≤ candidate.number := by
  obtain ⟨first, -⟩ := Option.filter_eq_some_iff.mp there
  exact keeps.candidates candidate (List.mem_of_mem_head? first)

theorem cutValue (keeps : Keeps kept s) (cut : s.cutValue = some after) : Keeps kept after := by
  rw [Cutting.cutValue] at cut
  split at cut
  · rename_i number depth mark required there
    have later := keeps.candidate? there
    cases cut
    have opened := (keeps.insert .key later).openBlock .blockMap mark.column later
    have fewer := opened.candidatesSubset (List.drop_subset 1 _)
    exact ((fewer.allowKey false).skip 1).emit _
  · split at cut
    · cases cut
      have opened := keeps.openBlock .blockMap s.cursor.mark.column keeps.length_le
      exact ((opened.allowKey _).skip 1).emit _
    · cases cut

theorem cutScalar (keeps : Keeps kept s) (cut : s.cutScalar = some after) : Keeps kept after := by
  obtain ⟨s', marked, cut⟩ := Option.bind_eq_some_iff.mp cut
  obtain ⟨scalar, -, ⟨⟩⟩ := Option.bind_eq_some_iff.mp cut
  have keeps' := keeps.markCandidate marked
  have moved : Keeps kept { s' with cursor := scalar.cursor, keyAllowed := scalar.endsLine } :=
    ⟨keeps'.first, keeps'.counted, keeps'.settled, keeps'.candidates⟩
  exact moved.emit _

theorem ite_some {p : Prop} [Decidable p] {yes no : Option Cutting}
    (result : (if p then yes else no) = some after) : yes = some after ∨ no = some after := by
  split at result
  · exact .inl result
  · exact .inr result

theorem cut (keeps : Keeps kept s) (cut : s.cut = some after) : Keeps kept after := by
  obtain ⟨s', passed, cut⟩ := Option.bind_eq_some_iff.mp cut
  have keeps' := keeps.next passed
  split at cut
  · exact keeps'.finish cut
  · -- what is cut depends on the first character
    rcases ite_some cut with cut | cut
    · cases cut
    rcases ite_some cut with cut | cut
    · exact keeps'.cutMark cut
    rcases ite_some cut with cut | cut
    · exact keeps'.cutOpening cut
    rcases ite_some cut with cut | cut
    · exact keeps'.cutOpening cut
    rcases ite_some cut with cut | cut
    · exact keeps'.cutClosing cut
    rcases ite_some cut with cut | cut
    · exact keeps'.cutClosing cut
    rcases ite_some cut with cut | cut
    · exact keeps'.cutComma cut
    rcases ite_some cut with cut | cut
    · exact keeps'.cutDash cut
    rcases ite_some cut with cut | cut
    · exact keeps'.cutKey cut
    rcases ite_some cut with cut | cut
    · exact keeps'.cutValue cut
    · exact keeps'.cutScalar cut

theorem settle (keeps : Keeps kept s) (settled : s.settle = some after) : Keeps kept after := by
  obtain ⟨s', dropped, ⟨⟩⟩ := Option.bind_eq_some_iff.mp settled
  have keeps' := keeps.dropStale dropped
  refine ⟨keeps'.first, keeps'.counted, ?_, keeps'.candidates⟩
  cases last : s'.candidates.getLast? with
  | none => exact keeps'.length_le
  | some candidate => exact keeps'.candidates candidate (List.mem_of_getLast? last)

theorem settledTokens (keeps : Keeps kept s) : kept <+: s.settledTokens := by
  rw [Cutting.settledTokens, List.prefix_take_iff]
  exact ⟨keeps.first, keeps.settled⟩

end Keeps

/-- However a text goes on, the tokens that have settled are its first tokens. -/
theorem run_keeps {kept : List Token} {s : Cutting} (keeps : Keeps kept s) (fuel : Nat) :
    kept <+: s.run fuel := by
  induction fuel generalizing s with
  | zero => exact keeps.settledTokens
  | succ fuel ih =>
    rw [run]
    cases step : s.cut.bind settle with
    | none => exact keeps.settledTokens
    | some after =>
      obtain ⟨s', cut, settled⟩ := Option.bind_eq_some_iff.mp step
      have keeps' : Keeps kept after := (keeps.cut cut).settle settled
      simp only
      split
      · exact keeps'.settledTokens
      · exact ih keeps'

end Templating.Yaml.Cutting
