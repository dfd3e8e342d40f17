import Mathlib.Data.List.Induction
import Templating.Proofs.Render.Atomicity
import Templating.Session

/-! The marks on a signal: aborts and resets, by whoever makes them. A signal that was clear has the
first reason after the last reset. An execution does nothing to its signal but the marks that its
program makes, and a render fails with the reason that the signal then holds. -/

namespace Templating

/-! ### Marks -/

/-- What is done to a signal. -/
inductive Mark where
  | abort (reason : String)
  | reset
  deriving DecidableEq

namespace Mark

def reason? : Mark → Option String
  | abort reason => some reason
  | reset => none

/-- The marks after the last reset. -/
def sinceReset (marks : List Mark) : List Mark := (marks.reverse.takeWhile (· ≠ reset)).reverse

/-- The first reason recorded after the last reset. -/
def firstReason? (marks : List Mark) : Option String := (sinceReset marks).findSome? reason?

theorem firstReason?_reset (marks : List Mark) : firstReason? (marks ++ [reset]) = none := by
  rw [firstReason?, sinceReset, List.reverse_append]
  rfl

theorem firstReason?_abort (marks : List Mark) (reason : String) :
    firstReason? (marks ++ [abort reason]) = (firstReason? marks).or (some reason) := by
  have later : sinceReset (marks ++ [abort reason]) = sinceReset marks ++ [abort reason] := by
    rw [sinceReset, List.reverse_append, List.reverse_singleton, List.singleton_append,
      List.takeWhile_cons_of_pos (by simp), List.reverse_cons]
    rfl
  rw [firstReason?, later, List.findSome?_append]
  rfl

end Mark

namespace Signal

def mark (signal : Signal) : Mark → Signal
  | .abort reason => signal.abort reason
  | .reset => clear

/-- A signal after marks, one after another. -/
def marked (signal : Signal) (marks : List Mark) : Signal := marks.foldl mark signal

theorem reason?_abort (signal : Signal) (reason : String) :
    (signal.abort reason).reason? = signal.reason?.or (some reason) := by
  obtain ⟨reason?⟩ := signal
  cases reason? <;> rfl

theorem marked_append (signal : Signal) (marks more : List Mark) :
    signal.marked (marks ++ more) = (signal.marked marks).marked more := List.foldl_append

theorem reason?_marked_clear (marks : List Mark) :
    (clear.marked marks).reason? = Mark.firstReason? marks := by
  induction marks using List.reverseRecOn with
  | nil => rfl
  | append_singleton marks last ih =>
    rw [marked_append]
    cases last with
    | abort reason =>
      rw [Mark.firstReason?_abort, ← ih]
      exact reason?_abort _ reason
    | reset => exact (Mark.firstReason?_reset marks).symm

theorem marked_of_reason {marks : List Mark} (lasting : .reset ∉ marks) (reason : String) :
    marked ⟨some reason⟩ marks = ⟨some reason⟩ := by
  induction marks with
  | nil => rfl
  | cons mark rest ih =>
    rw [List.mem_cons, not_or] at lasting
    cases mark with
    | abort other => exact ih lasting.2
    | reset => exact absurd rfl lasting.1

end Signal

/-- The marks that an execution makes on the signal of its context, in order. -/
def Program.marks (writer : Writer) (signal? : Option Signal) : Program → List Mark
  | ended _ => []
  | write bytes next =>
    let (_, failure?, writer) := writer.offer bytes
    (next failure?).marks writer signal?
  | abort reason next => .abort reason :: next.marks writer (signal?.map (·.abort reason))
  | reset next => .reset :: next.marks writer (signal?.map fun _ => Signal.clear)
  | look next => (next (signal?.bind (·.reason?))).marks writer signal?

/-- An execution does nothing to the signal but its marks. -/
theorem Program.signal?_execute (program : Program) (writer : Writer) (signal? : Option Signal) :
    (program.execute writer signal?).signal? =
      signal?.map (·.marked (program.marks writer signal?)) := by
  induction program generalizing writer signal? with
  | ended outcome => exact Option.map_id'.symm
  | write bytes next ih => exact ih _ _ signal?
  | abort reason next ih =>
    -- What is left of the program runs on the signal as the abort has left it.
    rw [execute, ih, Option.map_map]
    rfl
  | reset next ih =>
    rw [execute, ih, Option.map_map]
    rfl
  | look next ih => exact ih _ writer signal?

/-! ### Renders -/

namespace Template

variable {executor : Executor} {context : Context} {sink : Sink}

/-- The marks that a render makes on the signal of its context. -/
def marks (template : Template) (context : Context) (sink : Sink) : List Mark :=
  match template with
  | failed _ => []
  | ready executor =>
    (executor.program context.data context.signal?.isSome).marks sink.receiver context.signal?

/-- A render to a path leaves the signal as an execution with the path's writer does. -/
theorem signal?_renderToFile (executor : Executor) (context : Context) (tree : FileTree)
    (path : String) (streams : Streams) :
    ((ready executor).renderToFile context tree path streams).signal? =
      (executor.execute context (streams.receiver path)).signal? := by
  unfold renderToFile Streams.receiver
  cases Target.ofPath path with
  | standardOutput => rfl
  | standardError => rfl
  | file =>
    simp only [renderBytes, renderTo]
    cases (executor.execute context .unlimited).verdict <;> rfl

theorem signal?_send_ready (executor : Executor) (context : Context) (tree : FileTree)
    (sink : Sink) :
    ((ready executor).send context tree sink).signal? =
      (executor.execute context sink.receiver).signal? := by
  cases sink with
  | text => rfl
  | bytes => rfl
  | writer writer => rfl
  | path path streams => exact signal?_renderToFile executor context tree path streams

theorem signal?_send (template : Template) (context : Context) (tree : FileTree) (sink : Sink) :
    (template.send context tree sink).signal? =
      context.signal?.map (·.marked (template.marks context sink)) := by
  cases template with
  | ready executor =>
    rw [signal?_send_ready]
    exact Program.signal?_execute _ sink.receiver context.signal?
  | failed fault =>
    have kept : ((failed fault).send context tree sink).signal? = context.signal? := by
      cases sink <;> rfl
    rw [kept]
    exact Option.map_id'.symm

/-- A render whose execution has a fault as its verdict fails with it, and touches no file. -/
theorem send_of_verdict {fault : Fault} (tree : FileTree)
    (verdict : (executor.execute context sink.receiver).verdict = .error fault) :
    ((ready executor).send context tree sink).fault? = some fault ∧
      ((ready executor).send context tree sink).treeAfter tree = tree := by
  cases sink with
  | text =>
    refine ⟨?_, rfl⟩
    rw [send, Reply.fault?, (endsWith_of_verdict verdict).text, Reply.faultOf]
  | bytes =>
    refine ⟨?_, rfl⟩
    rw [send, Reply.fault?, (endsWith_of_verdict verdict).bytes, Reply.faultOf]
  | writer writer =>
    refine ⟨?_, rfl⟩
    have outcome : ((ready executor).renderTo context writer).outcome = .error fault := verdict
    rw [send, Reply.fault?, outcome, Reply.faultOf]
  | path path streams =>
    constructor
    · rw [send, Reply.fault?, outcome_renderToFile verdict tree, Reply.faultOf]
    · cases target : Target.ofPath path with
      | standardOutput => simp only [send, Reply.treeAfter, renderToFile, target]
      | standardError => simp only [send, Reply.treeAfter, renderToFile, target]
      | file =>
        rw [Sink.receiver, Streams.receiver_of_file target] at verdict
        rw [send, Reply.treeAfter, renderToFile_of_verdict target verdict]

/-- The tree matters only where octets are saved to a file. -/
theorem send_inTree {template : Template}
    (unsaved : sink.isFile = true → ∃ fault, (template.renderBytes context).outcome = .error fault)
    (tree other : FileTree) :
    template.send context other sink = (template.send context tree sink).inTree other := by
  cases sink with
  | text => rfl
  | bytes => rfl
  | writer writer => rfl
  | path path streams =>
    cases template with
    | failed fault => rfl
    | ready executor =>
      cases target : Target.ofPath path with
      | standardOutput => simp only [send, renderToFile, target, Reply.inTree]
      | standardError => simp only [send, renderToFile, target, Reply.inTree]
      | file =>
        obtain ⟨fault, failed⟩ := unsaved (by simp [Sink.isFile, target])
        simp only [send, renderToFile, target, failed, Reply.inTree]

/-- A render whose execution ends with a marked signal fails with the reason, and touches no file. -/
theorem send_of_marked {reason : String} (tree : FileTree)
    (held : (executor.execute context sink.receiver).signal? = some ⟨some reason⟩) :
    ((ready executor).send context tree sink).fault? = some (.aborted reason) ∧
      ((ready executor).send context tree sink).treeAfter tree = tree :=
  send_of_verdict tree (Execution.verdict_of_marked held)

end Template

end Templating
