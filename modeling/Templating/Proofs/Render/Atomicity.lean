import Templating.File.Target

/-! Renders that fail or are aborted leave nothing behind. A failed template gives its fault and
touches neither writer, signal nor file tree. A mark on the signal when the execution has ended is
the answer of every way of rendering, and else the execution's own fault is. A render to a file
touches the tree only when its execution has ended well and unmarked. -/

namespace Templating

namespace Execution

/-- The signal holds no reason when the execution has ended. -/
def Unmarked (execution : Execution) : Prop :=
  ∀ reason, execution.signal? ≠ some ⟨some reason⟩

variable {execution : Execution}

theorem verdict_of_marked {reason : String} (h : execution.signal? = some ⟨some reason⟩) :
    execution.verdict = .error (.aborted reason) := by
  simp [verdict, h, Signal.fault?]

theorem verdict_of_unmarked (h : execution.Unmarked) : execution.verdict = execution.outcome := by
  unfold verdict
  match hs : execution.signal? with
  | none => rfl
  | some ⟨none⟩ => rfl
  | some ⟨some reason⟩ => exact absurd hs (h reason)

theorem marked_or_unmarked (execution : Execution) :
    (∃ reason, execution.signal? = some ⟨some reason⟩) ∨ execution.Unmarked := by
  by_cases h : ∃ reason, execution.signal? = some ⟨some reason⟩
  · exact .inl h
  · exact .inr fun reason hs => h ⟨reason, hs⟩

/-- An execution that failed or was marked has a fault as its verdict. -/
theorem verdict_of_failed (h : (∃ reason, execution.signal? = some ⟨some reason⟩) ∨
    ∃ fault, execution.outcome = .error fault) : ∃ fault, execution.verdict = .error fault := by
  rcases execution.marked_or_unmarked with ⟨reason, hs⟩ | hu
  · exact ⟨_, verdict_of_marked hs⟩
  · rcases h with ⟨reason, hs⟩ | ⟨fault, hf⟩
    · exact absurd hs (hu reason)
    · exact ⟨fault, (verdict_of_unmarked hu).trans hf⟩

end Execution

/-- No step makes a signal or takes one away: only the reason of a signal changes. -/
theorem Program.isSome_signal?_execute (program : Program) (writer : Writer)
    (signal? : Option Signal) :
    (program.execute writer signal?).signal?.isSome = signal?.isSome := by
  induction program generalizing writer signal? with
  | ended outcome => rfl
  | write bytes next ih => exact ih _ _ signal?
  | abort reason next ih => rw [Program.execute, ih, Option.isSome_map]
  | reset next ih => rw [Program.execute, ih, Option.isSome_map]
  | look next ih => exact ih _ writer signal?

namespace Template

variable {executor : Executor} {context : Context} {fault : Fault} {path : String}
  {streams : Streams}

/-- The octets of a render exist only where the verdict of its execution is no fault. -/
theorem renderBytes_of_verdict
    (h : (executor.execute context .unlimited).verdict = .error fault) :
    ((ready executor).renderBytes context).outcome = .error fault := by
  simp only [renderBytes, renderTo, h]
  rfl

theorem render_of_verdict (h : (executor.execute context .unlimited).verdict = .error fault) :
    ((ready executor).render context).outcome = .error fault := by
  simp only [render, renderBytes_of_verdict h]
  rfl

/-- A render to a file whose octets fail does not reach the tree. -/
theorem renderToFile_of_verdict (hp : Target.ofPath path = .file)
    (h : (executor.execute context .unlimited).verdict = .error fault) (tree : FileTree) :
    (ready executor).renderToFile context tree path streams =
      ⟨.error fault, tree, [], [], (executor.execute context .unlimited).signal?⟩ := by
  simp only [renderToFile, hp, renderBytes_of_verdict h]
  rfl

/-- A path is a file's or a stream's, and on each the verdict of the execution is the answer. -/
theorem outcome_renderToFile
    (h : (executor.execute context (streams.receiver path)).verdict = .error fault)
    (tree : FileTree) :
    ((ready executor).renderToFile context tree path streams).outcome = .error fault := by
  unfold Streams.receiver at h
  cases hp : Target.ofPath path with
  | standardOutput =>
    rw [hp] at h
    simpa only [renderToFile, hp, renderTo] using h
  | standardError =>
    rw [hp] at h
    simpa only [renderToFile, hp, renderTo] using h
  | file =>
    rw [hp] at h
    rw [renderToFile_of_verdict hp h]

/-- Rendering to text and to octets ends with a fault. -/
structure EndsWith (template : Template) (context : Context) (fault : Fault) : Prop where
  text : (template.render context).outcome = .error fault
  bytes : (template.renderBytes context).outcome = .error fault

theorem endsWith_of_verdict (h : (executor.execute context .unlimited).verdict = .error fault) :
    (ready executor).EndsWith context fault where
  text := render_of_verdict h
  bytes := renderBytes_of_verdict h

/-- A failed template only gives its fault. A ready one gives the reason on the context's signal
after its execution, and without one the fault of the execution, whatever writers the standard streams
are; in both cases a render to a file leaves the tree and the standard streams as they were. -/
theorem failed_or_aborted_atomic (template : Template) (context : Context) :
    (∀ fault, template = failed fault →
      template.render context = ⟨.error fault, [], context.signal?⟩ ∧
      template.renderBytes context = ⟨.error fault, [], context.signal?⟩ ∧
      (∀ writer, template.renderTo context writer = ⟨.error fault, [], context.signal?⟩) ∧
      ∀ tree path streams, template.renderToFile context tree path streams =
        ⟨.error fault, tree, [], [], context.signal?⟩) ∧
    ∀ executor, template = ready executor →
      (∀ writer,
        (executor.execute context writer).signal?.isSome = context.signal?.isSome ∧
        (∀ reason, (executor.execute context writer).signal? = some ⟨some reason⟩ →
          (template.renderTo context writer).outcome = .error (.aborted reason)) ∧
        ((executor.execute context writer).Unmarked →
          (template.renderTo context writer).outcome =
            (executor.execute context writer).outcome)) ∧
      (∀ reason, (executor.execute context .unlimited).signal? = some ⟨some reason⟩ →
        template.EndsWith context (.aborted reason)) ∧
      (∀ fault, (executor.execute context .unlimited).Unmarked →
        (executor.execute context .unlimited).outcome = .error fault →
        template.EndsWith context fault) ∧
      (∀ tree path (streams : Streams),
        (∀ reason,
          (executor.execute context (streams.receiver path)).signal? = some ⟨some reason⟩ →
          (template.renderToFile context tree path streams).outcome = .error (.aborted reason)) ∧
        ∀ fault, (executor.execute context (streams.receiver path)).Unmarked →
          (executor.execute context (streams.receiver path)).outcome = .error fault →
          (template.renderToFile context tree path streams).outcome = .error fault) ∧
      ∀ tree path streams, Target.ofPath path = .file →
        ((∃ reason, (executor.execute context .unlimited).signal? = some ⟨some reason⟩) ∨
          ∃ fault, (executor.execute context .unlimited).outcome = .error fault) →
        (template.renderToFile context tree path streams).tree = tree ∧
          (template.renderToFile context tree path streams).output = [] ∧
          (template.renderToFile context tree path streams).errors = [] := by
  refine ⟨?_, ?_⟩
  · rintro fault rfl
    exact ⟨rfl, rfl, fun _ => rfl, fun _ _ _ => rfl⟩
  · rintro executor rfl
    refine ⟨fun writer => ⟨?_, fun reason h => ?_, fun h => ?_⟩, fun reason h => ?_,
      fun fault hu hf => ?_, fun tree path streams => ⟨fun reason h => ?_, fun fault hu hf => ?_⟩,
      fun tree path streams hp hf => ?_⟩
    · exact Program.isSome_signal?_execute _ writer context.signal?
    · exact Execution.verdict_of_marked h
    · exact Execution.verdict_of_unmarked h
    · exact endsWith_of_verdict (Execution.verdict_of_marked h)
    · exact endsWith_of_verdict ((Execution.verdict_of_unmarked hu).trans hf)
    · exact outcome_renderToFile (Execution.verdict_of_marked h) tree
    · exact outcome_renderToFile ((Execution.verdict_of_unmarked hu).trans hf) tree
    · obtain ⟨fault, hv⟩ := Execution.verdict_of_failed hf
      rw [renderToFile_of_verdict hp hv]
      exact ⟨rfl, rfl, rfl⟩

/-- Writes, marks the signal twice and then fails. -/
def stopping : Executor where
  program _ _ := .write [80] fun _ =>
    .abort "stopped" (.abort "late" (.ended (.error (.execute (.text "boom")))))

/-- Below a directory that does not exist, the first reason is the answer and no directory is made. It
is the answer, too, where the standard output takes nothing. -/
theorem stopping_leaves_tree :
    ((ready stopping).renderToFile (.abortable .null) .initial "sub/out.txt").outcome =
        .error (.aborted "stopped") ∧
      ((ready stopping).renderToFile (.abortable .null) .initial "sub/out.txt").tree = .initial ∧
      ((ready stopping).renderToFile (.abortable .null) .initial "stdout"
          ⟨.limited 0 (.system .noSpace), .unlimited⟩).outcome = .error (.aborted "stopped") ∧
      ((failed .noDefaultParser).renderToFile ⟨.ok .null, some ⟨some "stale"⟩⟩ .initial "stdout") =
        ⟨.error .noDefaultParser, .initial, [], [], some ⟨some "stale"⟩⟩ := by
  have marked : (stopping.execute (.abortable .null) .unlimited).signal? =
      some ⟨some "stopped"⟩ := rfl
  have file : Target.ofPath "sub/out.txt" = .file := by decide
  obtain ⟨-, ready⟩ := failed_or_aborted_atomic (ready stopping) (.abortable .null)
  obtain ⟨-, -, -, answers, untouched⟩ := ready stopping rfl
  obtain ⟨stale, -⟩ := failed_or_aborted_atomic (failed .noDefaultParser)
    ⟨.ok .null, some ⟨some "stale"⟩⟩
  exact ⟨(answers .initial "sub/out.txt" .unlimited).1 "stopped" marked,
    (untouched .initial "sub/out.txt" .unlimited file (.inl ⟨"stopped", marked⟩)).1,
    (answers .initial "stdout" _).1 "stopped" rfl, (stale _ rfl).2.2.2 .initial "stdout" _⟩

end Template

end Templating
