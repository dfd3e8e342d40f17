import Templating.Engine
import Templating.Proofs.Calling.Crossing
import Templating.Proofs.Phase.PageReading
import Templating.Proofs.Phase.PageRun
import Templating.Proofs.Phase.SheetRun
import Templating.Proofs.Resolution.Dispatch

/-! Faults belong to their phase. Where a parser rejects a source, the fault is the source's, and a
resolver keeps it in one layer of parsing. A render without data gives why there is none. A render with
data fails in execution, by a mark on its signal, or where its output goes, and writes texts. -/

namespace Templating

/-- Whether a render that has its data can fail with a fault. -/
def Fault.isOfRender : Fault → Bool
  | execute _ => true
  | aborted _ => true
  | stream _ => true
  | createDir _ _ => true
  | openFile _ _ => true
  | writeFile _ _ => true
  | closeFile _ _ => true
  | read _ _ => false
  | parse _ => false
  | source _ => false
  | noDefaultParser => false
  | serialize _ => false
  | notText _ => false
  | settings _ => false

/-- The octets that a render gives to its sink while it runs; a file has none before the render has
ended. -/
def Reply.written : Reply → Bytes
  | text rendered => rendered.written
  | bytes rendered => rendered.written
  | writer rendered => rendered.written
  | path written => written.output ++ written.errors

namespace Template

/-- The writes that a render offers to its sink, each with all its octets. -/
def offered (template : Template) (context : Context) (sink : Sink) : List Bytes :=
  match template with
  | failed _ => []
  | ready executor =>
    (executor.program context.data context.signal?.isSome).offered sink.receiver context.signal?

/-- Whether the writer of a sink refuses octets of a render. -/
def refused (template : Template) (context : Context) (sink : Sink) : Bool :=
  match template with
  | failed _ => false
  | ready executor => (executor.execute context sink.receiver).refused

/-- A render that has no data, and fails with the reason for that. -/
structure GivesCause (template : Template) (cause : Fault) (signal? : Option Signal) : Prop where
  /-- A mark on the signal that is there before the render wins. -/
  fault : ∀ tree sink, (template.send ⟨.error cause, signal?⟩ tree sink).fault? =
    some ((signal?.bind Signal.fault?).getD cause)
  offersNothing : ∀ sink, template.offered ⟨.error cause, signal?⟩ sink = []
  writesNothing : ∀ tree sink, (template.send ⟨.error cause, signal?⟩ tree sink).written = []
  leavesTree : ∀ tree sink,
    (template.send ⟨.error cause, signal?⟩ tree sink).treeAfter tree = tree

/-- A render with data. If `fails`, its execution may fail. -/
structure StaysInPhase (template : Template) (context : Context) (fails : Bool) : Prop where
  fault : ∀ tree sink fault, (template.send context tree sink).fault? = some fault →
    fault.isOfRender = true
  offersTexts : ∀ sink, ∀ bytes ∈ template.offered context sink, ∃ text, Utf8.decode bytes = .ok text
  /-- A writer that refuses octets still has the beginning of a text. -/
  writesText : ∀ tree sink, ∃ text,
    (template.send context tree sink).written <+: Utf8.encode text ∧
    (template.refused context sink = false →
      Utf8.decode (template.send context tree sink).written = .ok text)
  savesText : ∀ tree path streams, Target.ofPath path = .file →
    (template.send context tree (.path path streams)).treeAfter tree = tree ∨
    ∃ text, (template.send context tree (.path path streams)).treeAfter tree =
      (tree.save path (Utf8.encode text)).1
  /-- Where the writer refuses nothing and no mark is on the signal, only the execution fails, and
  what saves the output to a file. -/
  onlyExecution : ∀ tree sink fault, template.refused context sink = false →
    (∀ reason, (template.send context tree sink).signal? ≠ some ⟨some reason⟩) →
    (template.send context tree sink).fault? = some fault →
    (fails = true ∧ fault.OfExecution) ∨ sink.isFile = true ∧ fault.OfSaving

end Template

/-- The parser that a resolver chooses for a file name. -/
def Resolver.chosen? (resolver : Resolver) (fileName : String) : Option Parser :=
  (resolver.select fileName).answer.or resolver.default?

/-- A resolver that resolves a source to a failed template wherever it has chosen a parser. -/
structure Resolver.KeepsFault (resolver : Resolver) (parser : Parser) (source : String)
    (fault : Fault) : Prop where
  named : ∀ fileName, resolver.chosen? fileName = some parser →
    (resolver.fromNamed fileName source).template = .failed (.parse fault)
  bare : resolver.default? = some parser →
    (resolver.fromSource source).template = .failed (.parse fault)
  file : ∀ tree path, (resolver.load tree path).answer = .ok source →
    resolver.chosen? path = some parser →
    (resolver.fromFile tree path).template = .failed (.parse fault)

/-- A parser whose faults, and whose templates' faults, belong to their phase. If `fails`, the
templates may fail in execution. -/
structure Parser.KeepsPhases (parser : Parser) (fails : Bool) : Prop where
  rejects : ∀ label functions source fault, parser.parse label functions source = .error fault →
    fault.OfSource
  resolves : ∀ (resolver : Resolver) source fault,
    parser.parse resolver.label resolver.functions source = .error fault →
    resolver.KeepsFault parser source fault
  withoutData : ∀ label functions source template,
    parser.parse label functions source = .ok template →
    ∀ cause signal?, template.GivesCause cause signal?
  withData : ∀ label functions source template,
    parser.parse label functions source = .ok template →
    ∀ data signal?, template.StaysInPhase ⟨.ok data, signal?⟩ fails

/-! ### Resolution -/

namespace Resolver

variable {resolver : Resolver} {parser : Parser} {source : String} {fault : Fault}

theorem parseWith_of_error
    (h : parser.parse resolver.label resolver.functions source = .error fault) :
    (resolver.parseWith parser source).template = .failed (.parse fault) :=
  (resolver.parseWith_callsOnce parser source).fault fault h

theorem keepsFault_of_error
    (h : parser.parse resolver.label resolver.functions source = .error fault) :
    resolver.KeepsFault parser source fault := by
  have bare : resolver.default? = some parser →
      (resolver.fromSource source).template = .failed (.parse fault) := by
    intro default_
    rw [fromSource, default_]
    exact parseWith_of_error h
  have named : ∀ fileName, resolver.chosen? fileName = some parser →
      (resolver.fromNamed fileName source).template = .failed (.parse fault) := by
    intro fileName chosen
    rw [chosen?] at chosen
    rw [fromNamed, Resolution.template, Consulted.answer_bind]
    cases selected : (resolver.select fileName).answer with
    | some other =>
      rw [selected] at chosen
      obtain rfl : other = parser := Option.some.inj chosen
      exact parseWith_of_error h
    | none =>
      rw [selected] at chosen
      exact bare chosen
  refine ⟨named, bare, fun tree path read chosen => ?_⟩
  rw [fromFile, Resolution.template, Consulted.answer_bind, read]
  exact named path chosen

end Resolver

/-! ### Renders -/

namespace Template

variable {executor : Executor} {context : Context} {tree : FileTree} {sink : Sink}

theorem refused_text (template : Template) (context : Context) :
    template.refused context .text = false := by
  cases template with
  | failed fault => rfl
  | ready executor => exact Program.refused_execute_unlimited _ context.signal?

/-- To a text, and without a signal, only the execution of a render with data fails. -/
theorem StaysInPhase.ofExecution {template : Template} {data : Json} {fails : Bool} {fault : Fault}
    (stays : template.StaysInPhase (.ofData data) fails)
    (failed : (template.send (.ofData data) tree .text).fault? = some fault) :
    fault.OfExecution := by
  have unmarked : ∀ reason,
      (template.send (.ofData data) tree .text).signal? ≠ some ⟨some reason⟩ := by
    intro reason held
    cases (template.signal?_send (.ofData data) tree .text).symm.trans held
  rcases stays.onlyExecution tree .text fault (template.refused_text _) unmarked failed with
    ⟨-, executes⟩ | ⟨inFile, -⟩
  · exact executes
  · cases inFile

/-- A sink has what the execution's writer took, or nothing. -/
theorem written_send (executor : Executor) (context : Context) (tree : FileTree) (sink : Sink) :
    ((ready executor).send context tree sink).written = (executor.execute context sink.receiver).taken ∨
      ((ready executor).send context tree sink).written = [] := by
  cases sink with
  | text => exact .inl rfl
  | bytes => exact .inl rfl
  | writer writer => exact .inl rfl
  | path path streams =>
    simp only [send, Reply.written, Sink.receiver, Streams.receiver]
    cases target : Target.ofPath path with
    | standardOutput =>
      simp only [renderToFile, target, List.append_nil]
      exact .inl rfl
    | standardError =>
      simp only [renderToFile, target, List.nil_append]
      exact .inl rfl
    | file =>
      simp only [renderToFile, target]
      cases ((ready executor).renderBytes context).outcome <;> exact .inr rfl

/-- A file is saved with what the execution's writer took, if it is touched at all. -/
theorem treeAfter_send_path (context : Context) (tree : FileTree) {path : String}
    (streams : Streams) (file : Target.ofPath path = .file) :
    ((ready executor).send context tree (.path path streams)).treeAfter tree = tree ∨
      ((ready executor).send context tree (.path path streams)).treeAfter tree =
        (tree.save path (executor.execute context .unlimited).taken).1 := by
  cases verdict : (executor.execute context .unlimited).verdict with
  | error fault =>
    rw [← streams.receiver_of_file file] at verdict
    exact .inl (send_of_verdict tree verdict).2
  | ok done =>
    have rendered : ((ready executor).renderBytes context).outcome =
        .ok (executor.execute context .unlimited).taken := by
      simp only [renderBytes, renderTo, verdict]
      rfl
    right
    rw [send, Reply.treeAfter, renderToFile_of_bytes rendered file]

end Template

namespace Dialect

variable {dialect : Dialect} {label source : String} {functions : Registry} {fails : Bool}

theorem read_of_parse {template : Template}
    (h : dialect.parser.parse label functions source = .ok template) :
    ∃ tree, dialect.read label source = .ok tree ∧ template = dialect.template label functions tree := by
  rw [dialect.parse_eq] at h
  cases read : dialect.read label source with
  | ok tree =>
    rw [read] at h
    exact ⟨tree, rfl, (Except.ok.inj h).symm⟩
  | error fault =>
    rw [read] at h
    cases h

theorem read_of_parse_error {fault : Fault}
    (h : dialect.parser.parse label functions source = .error fault) :
    dialect.read label source = .error fault := by
  rw [dialect.parse_eq] at h
  cases read : dialect.read label source with
  | ok tree =>
    rw [read] at h
    cases h
  | error other =>
    rw [read] at h
    exact congrArg Except.error (Except.error.inj h)

/-- A template has no data to run with. -/
theorem givesCause_template (tree : dialect.Tree) (cause : Fault) (signal? : Option Signal) :
    (dialect.template label functions tree).GivesCause cause signal? := by
  have ended : ∀ writer, Executor.execute
      (.ofDataRuns (dialect.run label functions tree) (dialect.refusal label))
      ⟨.error cause, signal?⟩ writer = ⟨.error cause, [], false, signal?⟩ := fun _ => rfl
  have verdict : ∀ writer, (Executor.execute
      (.ofDataRuns (dialect.run label functions tree) (dialect.refusal label))
      ⟨.error cause, signal?⟩ writer).verdict =
        .error ((signal?.bind Signal.fault?).getD cause) := by
    intro writer
    rw [ended, Execution.verdict]
    cases signal?.bind Signal.fault? <;> rfl
  constructor
  · intro files sink
    exact (Template.send_of_verdict files (verdict sink.receiver)).1
  · intro sink
    rfl
  · intro files sink
    rcases Template.written_send _ ⟨.error cause, signal?⟩ files sink with taken | nothing
    · exact taken
    · exact nothing
  · intro files sink
    exact (Template.send_of_verdict files (verdict sink.receiver)).2

/-- A dialect that rejects sources for what is in them, and whose runs write texts and fail in
execution only. -/
structure Sound (dialect : Dialect) (fails : Bool) : Prop where
  read : ∀ label source, FaultsIn Fault.OfSource (dialect.read label source)
  texts : ∀ label functions tree data hasSignal,
    Texts (dialect.run label functions tree data hasSignal).events
  outcome : ∀ label functions tree data hasSignal,
    FaultsIn (fun fault => fails = true ∧ fault.OfExecution)
      (dialect.run label functions tree data hasSignal).outcome
  refusal : ∀ label cause, (dialect.refusal label cause).isOfRender = true

theorem isOfRender_of_saving {fault : Fault} (h : fault.OfSaving) : fault.isOfRender = true := by
  cases h <;> rfl

namespace Sound

variable (sound : dialect.Sound fails)

include sound

theorem taken_template (tree : dialect.Tree) (data : Json) (signal? : Option Signal)
    (writer : Writer) :
    ∃ text,
      (Executor.execute (.ofDataRuns (dialect.run label functions tree) (dialect.refusal label))
        ⟨.ok data, signal?⟩ writer).taken <+: Utf8.encode text ∧
      ((Executor.execute (.ofDataRuns (dialect.run label functions tree) (dialect.refusal label))
          ⟨.ok data, signal?⟩ writer).refused = false →
        (Executor.execute (.ofDataRuns (dialect.run label functions tree) (dialect.refusal label))
          ⟨.ok data, signal?⟩ writer).taken = Utf8.encode text) :=
  Run.taken_programOf (sound.texts label functions tree data signal?.isSome) writer signal?

/-- Where the writer has no limit, it has a text. -/
theorem taken_template_unlimited (tree : dialect.Tree) (data : Json) (signal? : Option Signal) :
    ∃ text, (Executor.execute (.ofDataRuns (dialect.run label functions tree)
      (dialect.refusal label)) ⟨.ok data, signal?⟩ .unlimited).taken = Utf8.encode text := by
  obtain ⟨text, -, all⟩ := sound.taken_template tree data signal? .unlimited
  exact ⟨text, all (Program.refused_execute_unlimited _ signal?)⟩

theorem decodeOutput_taken (tree : dialect.Tree) (data : Json) (signal? : Option Signal)
    (fault : Fault) :
    Template.decodeOutput (((dialect.run label functions tree data signal?.isSome).program
      (dialect.refusal label)).execute .unlimited signal?).taken ≠ .error fault := by
  obtain ⟨text, taken⟩ := sound.taken_template_unlimited tree data signal?
  rw [execute_template] at taken
  rw [taken, Template.decodeOutput, Utf8.decode_encode]
  intro same
  cases same

theorem staysInPhase (tree : dialect.Tree) (data : Json) (signal? : Option Signal) :
    (dialect.template label functions tree).StaysInPhase ⟨.ok data, signal?⟩ fails where
  fault files sink fault failed := by
    rcases send_fault failed with ⟨reason, -, rfl⟩ | own | ⟨-, cause, rfl⟩ | ⟨-, notText⟩ | ⟨-, saving⟩
    · rfl
    · obtain ⟨-, cause, rfl⟩ := sound.outcome _ _ _ _ _ fault own
      rfl
    · exact sound.refusal label cause
    · exact absurd notText (sound.decodeOutput_taken tree data signal? fault)
    · exact isOfRender_of_saving saving
  offersTexts sink bytes inOffered := by
    obtain ⟨text, rfl⟩ := Run.offered_programOf
      (sound.texts label functions tree data signal?.isSome) sink.receiver signal? bytes inOffered
    exact ⟨text, Utf8.decode_encode text⟩
  writesText files sink := by
    obtain ⟨text, start, all⟩ := sound.taken_template tree data signal? sink.receiver
    rcases Template.written_send _ ⟨.ok data, signal?⟩ files sink with taken | nothing
    · refine ⟨text, ?_, fun kept => ?_⟩
      · rw [template, taken]
        exact start
      · rw [template, taken, all kept, Utf8.decode_encode]
    · refine ⟨"", ?_, fun _ => ?_⟩
      · rw [template, nothing]
        exact List.nil_prefix
      · rw [template, nothing]
        rfl
  savesText files path streams file := by
    obtain ⟨text, taken⟩ := sound.taken_template_unlimited tree data signal?
    rcases Template.treeAfter_send_path ⟨.ok data, signal?⟩ files streams file with kept | saved
    · exact .inl kept
    · rw [taken] at saved
      exact .inr ⟨text, saved⟩
  onlyExecution files sink fault kept unmarked failed := by
    rcases send_fault failed with ⟨reason, marked, -⟩ | own | ⟨refused, -⟩ | ⟨-, notText⟩ | saving
    · exact absurd marked (unmarked reason)
    · exact .inl (sound.outcome _ _ _ _ _ fault own)
    · cases kept.symm.trans refused
    · exact absurd notText (sound.decodeOutput_taken tree data signal? fault)
    · exact .inr saving

theorem keepsPhases : dialect.parser.KeepsPhases fails where
  rejects label functions source fault rejected :=
    sound.read label source fault (read_of_parse_error rejected)
  resolves _ _ _ rejected := Resolver.keepsFault_of_error rejected
  withoutData label functions source template parsed cause signal? := by
    obtain ⟨tree, -, rfl⟩ := read_of_parse parsed
    exact givesCause_template tree cause signal?
  withData label functions source template parsed data signal? := by
    obtain ⟨tree, -, rfl⟩ := read_of_parse parsed
    exact sound.staysInPhase tree data signal?

end Sound

end Dialect

/-! ### The engines -/

theorem Page.sound_dialect (escapes : Bool) : (dialect escapes).Sound true where
  read label source := by
    refine (Reading.ofSyntax_page (Scan.ofSource source)).mapError fun rejection isSyntax => ?_
    exact ⟨_, PageFault.toFault_of_isSyntax isSyntax⟩
  texts label functions page data hasSignal :=
    (sound_run ⟨label, escapes, functions⟩ page data hasSignal).1
  outcome label functions page data hasSignal fault failed :=
    ⟨rfl, (sound_run ⟨label, escapes, functions⟩ page data hasSignal).2 fault failed⟩
  refusal _ _ := rfl

theorem Sheet.sound_dialect : dialect.Sound true where
  read label source := by
    simp only [dialect]
    cases parse? source with
    | some sheet => exact .ok sheet
    | none => exact .error ⟨.sheet label, rfl⟩
  texts label functions sheet data hasSignal := (sound_run label functions sheet data hasSignal).1
  outcome label functions sheet data hasSignal fault failed :=
    ⟨rfl, (sound_run label functions sheet data hasSignal).2 fault failed⟩
  refusal _ _ := rfl

theorem Pattern.sound_dialect : dialect.Sound false where
  read _ source := by
    have any : FaultsIn (fun _ => True) (parse source) := fun _ _ => trivial
    exact any.mapError fun cause _ => ⟨cause, rfl⟩
  texts _ _ _ _ _ := Texts.nil.cons ⟨_, rfl⟩
  outcome _ _ _ _ _ := .ok ()
  refusal _ _ := rfl

/-- In all engines, faults belong to their phase. Patterns never fail in execution. -/
theorem faults_belong_to_phases :
    Page.textParser.KeepsPhases true ∧ Page.htmlParser.KeepsPhases true ∧
      Pattern.parser.KeepsPhases false ∧ Sheet.parser.KeepsPhases true :=
  ⟨(Page.sound_dialect false).keepsPhases, (Page.sound_dialect true).keepsPhases,
    Pattern.sound_dialect.keepsPhases, Sheet.sound_dialect.keepsPhases⟩

/-- A function that never gives a value. -/
def refuse (_ : List Json) : Except String Json := .error "refused"

def refusing : Registry := .ofList [("refuse", refuse)]

/-- A page and a sheet that are read, and then fail in execution: a function that they call fails. -/
theorem failed_call_is_of_execution :
    ∃ page sheet pageFault sheetFault,
      Page.htmlParser.parse "t" refusing (Invocation.mk "refuse" []).pageSource = .ok page ∧
      (page.send (.ofData .null) .initial .text).fault? = some pageFault ∧ pageFault.OfExecution ∧
      Sheet.parser.parse "t" refusing (Invocation.mk "refuse" []).sheetSource = .ok sheet ∧
      (sheet.send (.ofData .null) .initial .text).fault? = some sheetFault ∧
      sheetFault.OfExecution := by
  obtain ⟨page, pageCause, -, -, read, -, -, failed⟩ :=
    (@Page.call_crosses .null ⟨"refuse", []⟩ [] "y" refusing refuse true "t" (by decide) rfl rfl .nil
      nofun (by decide) (by decide)).failed "refused" rfl
  obtain ⟨sheet, sheetCause, -, -, readSheet, -, -, failedSheet⟩ :=
    (@Sheet.call_crosses .null ⟨"refuse", []⟩ [] "y" refusing refuse "t" (by decide) rfl .nil
      (by decide) (by decide)).failed "refused" rfl
  have inPage := faults_belong_to_phases.2.1.withData _ _ _ _ read .null none
  have inSheet := faults_belong_to_phases.2.2.2.withData _ _ _ _ readSheet .null none
  exact ⟨page, sheet, _, _, read, failed .initial .text, inPage.ofExecution (failed .initial .text),
    readSheet, failedSheet .initial .text, inSheet.ofExecution (failedSheet .initial .text)⟩

/-- A text without placeholders shows no data and still fails without it. -/
example : ((Pattern.dialect.template "note" .empty ⟨[.literal "hi"]⟩).send
    ⟨.error Context.badKeys, none⟩ .initial .text).fault? = some Context.badKeys := rfl

end Templating
