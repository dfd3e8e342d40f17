import Templating.Dialect
import Templating.Proofs.File.Save
import Templating.Proofs.Session.Marks

/-! The faults that a render can end with: the verdict of its execution, and, for a path, what goes wrong
where the output is saved. Two executors that execute alike render alike. -/

namespace Templating

/-- What can go wrong where output is saved to a file. -/
inductive Fault.OfSaving : Fault → Prop where
  | createDir (path : String) (cause : IoFault) : OfSaving (.createDir path cause)
  | openFile (path : String) (cause : IoFault) : OfSaving (.openFile path cause)
  | writeFile (path : String) (cause : IoFault) : OfSaving (.writeFile path cause)

/-- The fault of a source that is rejected. -/
def Fault.OfSource (fault : Fault) : Prop := ∃ cause, fault = .source cause

/-- The fault of an execution that fails. -/
def Fault.OfExecution (fault : Fault) : Prop := ∃ cause, fault = .execute cause

/-- Whether a fault of a page is one of its source. -/
def PageFault.Kind.isSyntax : PageFault.Kind → Bool
  | syntaxError => true
  | badEscape => true
  | _ => false

/-- Whether a fault of a page is one of its execution, and so neither of its source nor of the writer. -/
def PageFault.Kind.isExecution (kind : PageFault.Kind) : Bool :=
  !kind.isSyntax && kind != writeFailure

section PageFault

variable {fault : PageFault}

theorem PageFault.toFault_of_isSyntax (h : fault.kind.isSyntax = true) :
    fault.toFault = .source (.page fault) := by
  obtain ⟨kind, function?, place?⟩ := fault
  cases kind <;> first | rfl | cases h

theorem PageFault.toFault_of_isExecution (h : fault.kind.isExecution = true) :
    fault.toFault = .execute (.page fault) := by
  obtain ⟨kind, function?, place?⟩ := fault
  cases kind <;> first | rfl | cases h

end PageFault

theorem exists_of_mapError {ε δ α : Type} {f : ε → δ} {result : Except ε α} {fault : δ}
    (h : result.mapError f = .error fault) : ∃ cause, fault = f cause := by
  cases result with
  | ok value => cases h
  | error cause => exact ⟨cause, (Except.error.inj h).symm⟩

theorem Reply.error_of_faultOf {α : Type} {result : Except Fault α} {fault : Fault}
    (h : faultOf result = some fault) : result = .error fault := by
  cases result with
  | ok value => cases h
  | error reason => exact congrArg Except.error (Option.some.inj h)

namespace FileTree

variable {tree : FileTree} {path : String} {bytes : Bytes} {fault : Fault}

theorem save_fault (h : (tree.save path bytes).2 = .error fault) : fault.OfSaving := by
  unfold save at h
  split at h
  · next failed =>
    obtain rfl := Except.error.inj h
    obtain ⟨dir, cause, rfl⟩ := makeParents_fault (congrArg Prod.snd failed)
    exact .createDir dir cause
  · next made _ =>
    split at h
    · next cause _ =>
      obtain rfl := Except.error.inj h
      exact .openFile path cause
    · next opened place _ =>
      obtain ⟨cause, rfl⟩ := exists_of_mapError
        (show (opened.append place bytes).2.mapError (Fault.writeFile path) = _ from h)
      exact .writeFile path cause

end FileTree

namespace Template

variable {executor other : Executor} {context context' : Context} {tree : FileTree} {sink : Sink}
  {fault : Fault}

theorem renderTo_eq (same : ∀ writer, executor.execute context writer = other.execute context' writer)
    (writer : Writer) :
    (ready executor).renderTo context writer = (ready other).renderTo context' writer := by
  simp only [renderTo, same]

theorem send_eq (same : ∀ writer, executor.execute context writer = other.execute context' writer)
    (tree : FileTree) (sink : Sink) :
    (ready executor).send context tree sink = (ready other).send context' tree sink := by
  have alike := renderTo_eq same
  cases sink with
  | text => simp only [send, render, renderBytes, alike]
  | bytes => simp only [send, renderBytes, alike]
  | writer writer => simp only [send, alike]
  | path path streams => simp only [send, renderToFile, renderBytes, alike]

theorem decodeOutput_fault {bytes : Bytes} (h : decodeOutput bytes = .error fault) :
    ∃ reason, fault = .notText reason := by
  unfold decodeOutput at h
  split at h
  · cases h
  · exact ⟨_, (Except.error.inj h).symm⟩

/-- A render of a template that runs fails with its verdict, or else its octets are no text, or they
cannot be saved. -/
theorem send_fault (h : ((ready executor).send context tree sink).fault? = some fault) :
    (executor.execute context sink.receiver).verdict = .error fault ∨
      (sink = .text ∧ decodeOutput (executor.execute context .unlimited).taken = .error fault) ∨
      sink.isFile = true ∧ fault.OfSaving := by
  cases verdict : (executor.execute context sink.receiver).verdict with
  | error reason =>
    rw [(send_of_verdict tree verdict).1] at h
    exact .inl (congrArg Except.error (Option.some.inj h))
  | ok done =>
    cases sink with
    | text =>
      have ended : (executor.execute context .unlimited).verdict = .ok done := verdict
      simp only [send, Reply.fault?, render, renderBytes, renderTo, ended, Except.map,
        Except.bind] at h
      exact .inr (.inl ⟨rfl, Reply.error_of_faultOf h⟩)
    | bytes =>
      have ended : (executor.execute context .unlimited).verdict = .ok done := verdict
      simp only [send, Reply.fault?, renderBytes, renderTo, ended] at h
      cases h
    | writer writer =>
      have ended : (executor.execute context writer).verdict = .ok done := verdict
      simp only [send, Reply.fault?, renderTo, ended] at h
      cases h
    | path path streams =>
      have ended : (executor.execute context (streams.receiver path)).verdict = .ok done := verdict
      unfold Streams.receiver at ended
      cases target : Target.ofPath path with
      | standardOutput =>
        rw [target] at ended
        simp only [send, Reply.fault?, renderToFile, target, renderTo, ended] at h
        cases h
      | standardError =>
        rw [target] at ended
        simp only [send, Reply.fault?, renderToFile, target, renderTo, ended] at h
        cases h
      | file =>
        rw [target] at ended
        simp only [send, Reply.fault?, renderToFile, target, renderBytes, renderTo, ended,
          Except.map] at h
        refine .inr (.inr ⟨?_, FileTree.save_fault (Reply.error_of_faultOf h)⟩)
        simp [Sink.isFile, target]

end Template

/-- A verdict that is a fault is a mark on the signal, or the outcome of an execution without one. -/
theorem Execution.verdict_fault {execution : Execution} {fault : Fault}
    (h : execution.verdict = .error fault) :
    (∃ reason, execution.signal? = some ⟨some reason⟩ ∧ fault = .aborted reason) ∨
      execution.Unmarked ∧ execution.outcome = .error fault := by
  rcases execution.marked_or_unmarked with ⟨reason, marked⟩ | unmarked
  · rw [verdict_of_marked marked] at h
    exact .inl ⟨reason, marked, (Except.error.inj h).symm⟩
  · rw [verdict_of_unmarked unmarked] at h
    exact .inr ⟨unmarked, h⟩

namespace Run

variable {refusal : IoFault → Fault} {outcome : Except Fault Unit} {bytes : Bytes} {room : Nat}

theorem execute_write_fits (fits : bytes.length ≤ room) (rest : List Event) (cause : IoFault)
    (signal? : Option Signal) :
    (programOf refusal outcome (.write bytes :: rest)).execute (.limited room cause) signal? =
      ((programOf refusal outcome rest).execute (.limited (room - bytes.length) cause)
        signal?).afterWrite bytes none := by
  simp only [programOf, Program.execute, Writer.offer, Writer.limited, if_pos fits]

theorem execute_write_refused (more : ¬bytes.length ≤ room) (rest : List Event) (cause : IoFault)
    (signal? : Option Signal) :
    (programOf refusal outcome (.write bytes :: rest)).execute (.limited room cause) signal? =
      ⟨.error (refusal cause), bytes.take room, true, signal?⟩ := by
  simp only [programOf, Program.execute, Writer.offer, Writer.limited, if_neg more,
    Execution.afterWrite, List.append_nil]
  rfl

/-- A write is taken and the run goes on, or it is refused, with a part of it taken, and ends the run. -/
theorem execute_write_cases (bytes : Bytes) (rest : List Event) (writer : Writer)
    (signal? : Option Signal) :
    (∃ left, (programOf refusal outcome (.write bytes :: rest)).execute writer signal? =
      ((programOf refusal outcome rest).execute left signal?).afterWrite bytes none) ∨
    ∃ room, (programOf refusal outcome (.write bytes :: rest)).execute writer signal? =
      ⟨.error (refusal writer.refusal), bytes.take room, true, signal?⟩ := by
  obtain ⟨room?, cause⟩ := writer
  cases room? with
  | none => exact .inl ⟨⟨none, cause⟩, rfl⟩
  | some room =>
    by_cases fits : bytes.length ≤ room
    · exact .inl ⟨_, execute_write_fits fits rest cause signal?⟩
    · exact .inr ⟨room, execute_write_refused fits rest cause signal?⟩

theorem outcome_programOf (writer : Writer) (signal? : Option Signal) (events : List Event) :
    ((programOf refusal outcome events).execute writer signal?).outcome = outcome ∨
      ((programOf refusal outcome events).execute writer signal?).refused = true ∧ ∃ cause,
        ((programOf refusal outcome events).execute writer signal?).outcome =
          .error (refusal cause) := by
  induction events generalizing writer signal? with
  | nil => exact .inl rfl
  | cons event rest ih =>
    cases event with
    | write bytes =>
      rcases execute_write_cases bytes rest writer signal? with ⟨left, goesOn⟩ | ⟨room, ended⟩
      · rw [goesOn]
        exact ih left signal?
      · rw [ended]
        exact .inr ⟨rfl, writer.refusal, rfl⟩
    | abort reason => exact ih writer _
    | call name arguments => exact ih writer signal?

/-- An execution of a run ends as the run does, or where the writer refuses a write. -/
theorem outcome_execute (run : Run) (writer : Writer) (signal? : Option Signal) :
    ((run.program refusal).execute writer signal?).outcome = run.outcome ∨
      ((run.program refusal).execute writer signal?).refused = true ∧ ∃ cause,
        ((run.program refusal).execute writer signal?).outcome = .error (refusal cause) :=
  outcome_programOf writer signal? run.events

end Run

namespace Dialect

variable {dialect : Dialect} {label : String} {functions : Registry} {tree : dialect.Tree}
  {data : Json} {signal? : Option Signal} {files : FileTree} {sink : Sink} {fault : Fault}

theorem execute_template (writer : Writer) :
    Executor.execute (.ofDataRuns (dialect.run label functions tree) (dialect.refusal label))
        ⟨.ok data, signal?⟩ writer =
      ((dialect.run label functions tree data signal?.isSome).program
        (dialect.refusal label)).execute writer signal? := rfl

/-- A render with data fails because the signal is marked, as its run does, where the writer refuses a
write, because its octets are no text, or where they cannot be saved. -/
theorem send_fault
    (h : ((dialect.template label functions tree).send ⟨.ok data, signal?⟩ files sink).fault? =
      some fault) :
    (∃ reason, ((dialect.template label functions tree).send ⟨.ok data, signal?⟩ files sink).signal? =
      some ⟨some reason⟩ ∧ fault = .aborted reason) ∨
    (dialect.run label functions tree data signal?.isSome).outcome = .error fault ∨
    ((((dialect.run label functions tree data signal?.isSome).program
        (dialect.refusal label)).execute sink.receiver signal?).refused = true ∧
      ∃ cause, fault = dialect.refusal label cause) ∨
    (sink = .text ∧ Template.decodeOutput
      (((dialect.run label functions tree data signal?.isSome).program
        (dialect.refusal label)).execute .unlimited signal?).taken = .error fault) ∨
    sink.isFile = true ∧ fault.OfSaving := by
  rcases Template.send_fault h with verdict | notText | saving
  · rw [execute_template] at verdict
    rcases Execution.verdict_fault verdict with ⟨reason, marked, rfl⟩ | ⟨-, outcome⟩
    · exact .inl ⟨reason, (Template.signal?_send_ready ..).trans marked, rfl⟩
    · rcases Run.outcome_execute (dialect.run label functions tree data signal?.isSome)
        sink.receiver signal? with own | ⟨refused, cause, failed⟩
      · exact .inr (.inl (own.symm.trans outcome))
      · rw [failed] at outcome
        exact .inr (.inr (.inl ⟨refused, cause, (Except.error.inj outcome).symm⟩))
  · exact .inr (.inr (.inr (.inl notText)))
  · exact .inr (.inr (.inr (.inr saving)))

end Dialect

end Templating
