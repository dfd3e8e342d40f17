import Templating.Proofs.Calling.PageTree
import Templating.Proofs.Phase.Phases

/-! Renders to writers that run out of room. Such a writer has the beginning of what a writer without limit
has, as far as its room reaches, wherever that cuts the output. The render ends at the refused write, with
the reason that the signal holds by then or with the fault that the engine has for it, and where all fits
there is no difference. -/

namespace Templating

namespace Execution

/-- An execution that ends with a fault at the write that has no room, beside one without limit. -/
structure CutAt (room : Nat) (fault : Fault) (cut whole : Execution) : Prop where
  taken : cut.taken = whole.taken.take room
  fits : whole.taken.length ≤ room → cut = whole
  ends : room < whole.taken.length → cut.refused = true ∧ cut.outcome = .error fault

/-- A write that fits takes its part of the room. -/
theorem CutAt.afterWrite {room : Nat} {fault : Fault} {cut whole : Execution} {bytes : Bytes}
    (there : bytes.length ≤ room) (h : CutAt (room - bytes.length) fault cut whole) :
    CutAt room fault (cut.afterWrite bytes none) (whole.afterWrite bytes none) where
  taken := by
    show bytes ++ cut.taken = (bytes ++ whole.taken).take room
    rw [List.take_append, List.take_of_length_le there, h.taken]
  fits all := by
    have rest_fits : whole.taken.length ≤ room - bytes.length := by
      have sum : (bytes ++ whole.taken).length ≤ room := all
      rw [List.length_append] at sum
      omega
    rw [h.fits rest_fits]
  ends more := by
    have rest_more : room - bytes.length < whole.taken.length := by
      have sum : room < (bytes ++ whole.taken).length := more
      rw [List.length_append] at sum
      omega
    exact h.ends rest_more

end Execution

namespace Run

variable {refusal : IoFault → Fault} {outcome : Except Fault Unit}

/-- By induction on the steps: a write fits and leaves less room, or ends the run. -/
theorem cutAt_programOf (events : List Event) (room : Nat) (cause : IoFault)
    (signal? : Option Signal) :
    Execution.CutAt room (refusal cause)
      ((programOf refusal outcome events).execute (.limited room cause) signal?)
      ((programOf refusal outcome events).execute .unlimited signal?) := by
  induction events generalizing room signal? with
  | nil => exact ⟨(List.take_nil).symm, fun _ => rfl, fun more => absurd more (Nat.not_lt_zero room)⟩
  | cons event rest ih =>
    cases event with
    | abort reason => exact ih room _
    | call name arguments => exact ih room signal?
    | write bytes =>
      by_cases there : bytes.length ≤ room
      · rw [execute_write_fits there]
        exact (ih (room - bytes.length) signal?).afterWrite there
      · -- The room ends within this write, so nothing of what follows is taken.
        rw [execute_write_refused there]
        have whole : ((programOf refusal outcome (.write bytes :: rest)).execute .unlimited
            signal?).taken =
            bytes ++ ((programOf refusal outcome rest).execute .unlimited signal?).taken := rfl
        refine ⟨?_, fun all => ?_, fun _ => ⟨rfl, rfl⟩⟩
        · rw [whole, List.take_append_of_le_length (by omega)]
        · rw [whole, List.length_append] at all
          omega

end Run

/-- What a writer with some room has of a render, and how the render ends, beside a writer without limit.
`refused` is the fault of a write for which there is no room. -/
structure Template.Truncates (template : Template) (context : Context) (room : Nat) (cause : IoFault)
    (refused : Fault) : Prop where
  written : (template.renderTo context (.limited room cause)).written =
    (template.renderTo context .unlimited).written.take room
  refuses : template.refused context (.writer (.limited room cause)) = true ↔
    room < (template.renderTo context .unlimited).written.length
  marked : template.refused context (.writer (.limited room cause)) = true →
    ∀ reason, (template.renderTo context (.limited room cause)).signal? = some ⟨some reason⟩ →
      (template.renderTo context (.limited room cause)).outcome = .error (.aborted reason)
  unmarked : template.refused context (.writer (.limited room cause)) = true →
    (∀ reason, (template.renderTo context (.limited room cause)).signal? ≠ some ⟨some reason⟩) →
      (template.renderTo context (.limited room cause)).outcome = .error refused
  whole : template.refused context (.writer (.limited room cause)) = false →
    template.renderTo context (.limited room cause) = template.renderTo context .unlimited

/-- A parser whose templates truncate, with the fault that `refusal` gives for a refused write. -/
def Parser.Truncates (parser : Parser) (refusal : (label : String) → IoFault → Fault) : Prop :=
  ∀ label functions source template, parser.parse label functions source = .ok template →
    ∀ context room cause, template.Truncates context room cause (refusal label cause)

theorem Template.truncates_ofRuns (run : (data : Except Fault Json) → (hasSignal : Bool) → Run)
    (refusal : IoFault → Fault) (context : Context) (room : Nat) (cause : IoFault) :
    (ready (.ofRuns run refusal)).Truncates context room cause (refusal cause) := by
  have cut : Execution.CutAt room (refusal cause)
      ((Executor.ofRuns run refusal).execute context (.limited room cause))
      ((Executor.ofRuns run refusal).execute context .unlimited) :=
    Run.cutAt_programOf _ room cause context.signal?
  have refuses : ((Executor.ofRuns run refusal).execute context (.limited room cause)).refused = true ↔
      room < ((Executor.ofRuns run refusal).execute context .unlimited).taken.length := by
    constructor
    · intro refused
      by_contra fits
      rw [cut.fits (by omega)] at refused
      cases (Program.refused_execute_unlimited _ context.signal?).symm.trans refused
    · intro more
      exact (cut.ends more).1
  constructor
  · exact cut.taken
  · exact refuses
  · intro _ reason held
    exact Execution.verdict_of_marked held
  · intro refused held
    exact (Execution.verdict_of_unmarked held).trans (cut.ends (refuses.mp refused)).2
  · intro kept
    have fits : ((Executor.ofRuns run refusal).execute context .unlimited).taken.length ≤ room := by
      rw [← Nat.not_lt, ← refuses]
      exact Bool.eq_false_iff.mp kept
    simp only [renderTo, cut.fits fits]

theorem Dialect.parser_truncates (dialect : Dialect) : dialect.parser.Truncates dialect.refusal := by
  intro label functions source template parsed context room cause
  obtain ⟨tree, -, rfl⟩ := read_of_parse parsed
  exact Template.truncates_ofRuns _ (dialect.refusal label) context room cause

/-- In all engines, a writer that runs out of room has the beginning of what a writer without limit has. The
render then fails with the reason on the signal, and else as a stream under pages and patterns and in
execution under sheets. -/
theorem refused_writes_truncate :
    Page.textParser.Truncates (fun _ _ => .stream (.custom .other "failed to write output")) ∧
      Page.htmlParser.Truncates (fun _ _ => .stream (.custom .other "failed to write output")) ∧
      Pattern.parser.Truncates (fun _ cause => .stream cause) ∧
      Sheet.parser.Truncates (fun label _ => .execute (.sheet label none)) :=
  ⟨(Page.dialect false).parser_truncates, (Page.dialect true).parser_truncates,
    Pattern.dialect.parser_truncates, Sheet.dialect.parser_truncates⟩

/-- A page that aborts between two writes. -/
def abortingPage : List Page.Stmt :=
  [.text "a", .print 1 (.call 1 (.var 1 "abort") []), .text "b"]

theorem parse_abortingPage : Page.parse "a\x7b\x7b abort() \x7d\x7db" = .ok abortingPage := by
  let call : List Page.Lexeme := [⟨.name "abort", 1⟩, ⟨.mark .parenOpen, 1⟩, ⟨.mark .parenClose, 1⟩]
  have scanned : Page.Scan.ofSource "a\x7b\x7b abort() \x7d\x7db" =
      ⟨⟨.data "a", 1⟩ :: ⟨.printStart, 1⟩ :: (call ++ [⟨.printEnd, 1⟩, ⟨.data "b", 1⟩]), none⟩ := rfl
  obtain ⟨_, close, ⟨⟩, called⟩ : ∃ places close, Page.Places [] places ∧
      Page.Reading.expr 286 0 ⟨call ++ [⟨.printEnd, 1⟩, ⟨.data "b", 1⟩], none, 1⟩ =
        .ok (.call 1 (.var 1 "abort") places,
          Page.Reading.beforeStop ⟨.printEnd, 1⟩ [⟨.data "b", 1⟩] close) :=
    Page.Reading.expr_call (by decide) rfl (fun _ given => absurd given List.not_mem_nil)
      List.mem_cons_self (by decide)
  exact Page.parse_of_body scanned (Page.Reading.body_text "a"
    (Page.Reading.body_print called (Page.Reading.body_text "b" Page.Reading.body_nil)))

/-- Where there is room for the first write only, the reason is there when the second is refused. Where
there is none, the render never comes to the abort. -/
theorem abort_between_writes :
    ∃ template, Page.textParser.parse "t" .empty "a\x7b\x7b abort() \x7d\x7db" = .ok template ∧
      (template.renderTo (.abortable .null) .unlimited).written = [97, 98] ∧
      (template.renderTo (.abortable .null) (.limited 1 (.system .noSpace))).written = [97] ∧
      (template.renderTo (.abortable .null) (.limited 1 (.system .noSpace))).outcome =
        .error (.aborted "aborted") ∧
      (template.renderTo (.abortable .null) (.limited 0 (.system .noSpace))).written = [] ∧
      (template.renderTo (.abortable .null) (.limited 0 (.system .noSpace))).outcome =
        .error (.stream (.custom .other "failed to write output")) ∧
      template.renderTo (.abortable .null) (.limited 2 (.system .noSpace)) =
        template.renderTo (.abortable .null) .unlimited := by
  have parsed : (Page.dialect false).parser.parse "t" .empty "a\x7b\x7b abort() \x7d\x7db" =
      .ok ((Page.dialect false).template "t" .empty abortingPage) :=
    Dialect.parse_of_read .empty <| by
      show (Page.parse _).mapError _ = .ok abortingPage
      rw [parse_abortingPage]
      rfl
  have truncates := refused_writes_truncate.1 "t" .empty _ _ parsed (.abortable .null)
  have whole : (((Page.dialect false).template "t" .empty abortingPage).renderTo
      (.abortable .null) .unlimited).written = [97, 98] := rfl
  have none := truncates 0 (.system .noSpace)
  have some := truncates 1 (.system .noSpace)
  have all := truncates 2 (.system .noSpace)
  refine ⟨_, parsed, whole, some.written, ?_, none.written, ?_, ?_⟩
  · exact some.marked (some.refuses.mpr (by rw [whole]; decide)) "aborted" rfl
  · refine none.unmarked (none.refuses.mpr (by rw [whole]; decide)) fun reason held => ?_
    cases held
  · refine all.whole (Bool.eq_false_iff.mpr fun refused => ?_)
    have more := all.refuses.mp refused
    rw [whole] at more
    exact absurd more (by decide)

end Templating
