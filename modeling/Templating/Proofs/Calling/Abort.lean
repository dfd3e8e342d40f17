import Templating.Proofs.Calling.Crossing

/-! The name `abort` stands for the signal of a render's context, over the data and the registry, and
only in renders with a signal. One template may render with a signal and without one. -/

namespace Templating

/-- A printed call of `abort`, with a reason or without one. -/
def Invocation.abort (reason? : Option String) : Invocation :=
  ⟨"abort", (reason?.map fun reason => ⟨"reason", .text reason⟩).toList⟩

example : (Invocation.abort (some "r")).pageSource = "\x7b\x7b abort('r') \x7d\x7d" := by decide

example : (Invocation.abort (some "r")).sheetSource = "\x7b\x7b abort(reason=\"r\") \x7d\x7d" := by
  decide

example : (Invocation.abort none).pageSource = "\x7b\x7b abort() \x7d\x7d" := by decide

namespace Dialect

variable {dialect : Dialect} {label : String} {functions : Registry} {tree : dialect.Tree}
  {reason : String} {passed : List Json} {shadows : Json → Prop}

/-- What a tree does that prints a call of `abort`. With a signal, it marks it and calls no function.
Without one, it calls the function of the registry, unless there is none or the data shadows it. -/
structure BindsAbort (dialect : Dialect) (label : String) (functions : Registry)
    (tree : dialect.Tree) (reason : String) (passed : List Json) (shadows : Json → Prop) :
    Prop where
  marks : ∀ data files sink,
    ((dialect.template label functions tree).send (.abortable data) files sink).fault? =
        some (.aborted reason) ∧
      ((dialect.template label functions tree).send (.abortable data) files sink).signal? =
        some ⟨some reason⟩
  callsNothing : ∀ data name arguments,
    .call name arguments ∉ (dialect.run label functions tree data true).events
  leavesUnmarked : ∀ data files sink,
    ((dialect.template label functions tree).send (.ofData data) files sink).signal? = none ∧
      ∀ other, ((dialect.template label functions tree).send (.ofData data) files sink).fault? ≠
        some (.aborted other)
  reachesRegistry : ∀ data f, functions.get? "abort" = some f → ¬shadows data →
    ∃ rest, (dialect.run label functions tree data false).events = .call "abort" passed :: rest ∧
      ∀ name arguments, .call name arguments ∉ rest
  failsOtherwise : ∀ data, functions.get? "abort" = none ∨ shadows data → ∃ cause,
    dialect.run label functions tree data false = ⟨[], .error (.execute cause)⟩ ∧
      ∀ files sink, ((dialect.template label functions tree).send (.ofData data) files sink).fault? =
        some (.execute cause)

theorem BindsAbort.of_runs {text : Json → String} {cause : String → ExecutionFault}
    (refusal : ∀ failure other, dialect.refusal label failure ≠ .aborted other)
    (marked : ∀ data, dialect.run label functions tree data true =
      ⟨[.abort reason, .write []], .ok ()⟩)
    (called : ∀ data f, functions.get? "abort" = some f → ¬shadows data →
      dialect.run label functions tree data false = .ofCall "abort" passed text cause (f passed))
    (failed : ∀ data, functions.get? "abort" = none ∨ shadows data → ∃ cause,
      dialect.run label functions tree data false = ⟨[], .error (.execute cause)⟩) :
    dialect.BindsAbort label functions tree reason passed shadows where
  marks data files sink := by
    have held : (Executor.execute
        (.ofDataRuns (dialect.run label functions tree) (dialect.refusal label))
        (.abortable data) sink.receiver).signal? = some ⟨some reason⟩ := by
      rw [Context.abortable, execute_template, Option.isSome_some, marked]
      rcases sink.receiver with ⟨_ | room, failure⟩ <;> rfl
    exact ⟨(Template.send_of_marked files held).1,
      (Template.signal?_send_ready ..).trans held⟩
  callsNothing data name arguments inRun := by
    rw [marked] at inRun
    simp at inRun
  leavesUnmarked data files sink := by
    have noSignal : ((dialect.template label functions tree).send (.ofData data) files
        sink).signal? = none := Template.signal?_send _ (.ofData data) files sink
    refine ⟨noSignal, fun other aborted => ?_⟩
    rcases send_fault aborted with ⟨_, held, -⟩ | own | ⟨-, failure, refused⟩ | ⟨-, notText⟩ |
      ⟨-, saving⟩
    · cases noSignal.symm.trans held
    · -- The run ends well, or with a fault of its function or of the page.
      by_cases hidden : functions.get? "abort" = none ∨ shadows data
      · obtain ⟨cause, run⟩ := failed data hidden
        rw [Option.isSome_none, run] at own
        cases own
      · obtain ⟨known, inSight⟩ := not_or.mp hidden
        obtain ⟨f, registered⟩ := Option.ne_none_iff_exists'.mp known
        rw [Option.isSome_none, called data f registered inSight] at own
        cases result : f passed <;> rw [result] at own <;> cases own
    · exact refusal failure other refused.symm
    · obtain ⟨reason, same⟩ := Template.decodeOutput_fault notText
      cases same
    · cases saving
  reachesRegistry data f registered inSight := by
    rw [called data f registered inSight]
    cases f passed with
    | ok value => exact ⟨_, rfl, by simp⟩
    | error message => exact ⟨_, rfl, nofun⟩
  failsOtherwise data hidden := by
    obtain ⟨cause, run⟩ := failed data hidden
    refine ⟨cause, run, fun files sink => (Template.send_of_verdict files ?_).1⟩
    rw [Context.ofData, execute_template, Option.isSome_none, run]
    rfl

end Dialect

theorem denotes_reason (data : Json) (reason? : Option String) :
    List.Forall₂ (fun argument => argument.operand.Denotes data)
      (Invocation.abort reason?).arguments (reason?.map Json.str).toList := by
  cases reason? with
  | none => exact .nil
  | some reason => exact .cons rfl .nil

namespace Page

theorem callable_abort {reason? : Option String} (free : ∀ reason ∈ reason?, QuoteFree reason) :
    Page.Callable (Invocation.abort reason?) where
  named := (by decide : Identifier "abort")
  free := (by decide : "abort" ∉ keywords)
  unreserved := (by decide : "abort" ∉ reservedCallees)
  plain := by
    cases reason? with
    | none => nofun
    | some reason => exact List.forall_mem_singleton.mpr (free reason rfl)
  outside := by
    cases reason? with
    | none => nofun
    | some reason => exact List.forall_mem_singleton.mpr trivial

theorem stands_of_reason {setting : Setting} {machine : Machine} (reason? : Option String) :
    List.Forall₂ (fun argument => Rendering.Stands setting machine argument.operand)
      (Invocation.abort reason?).arguments (reason?.map Value.text).toList := by
  cases reason? with
  | none => exact .nil
  | some reason => exact .cons rfl .nil

/-- On a page a field of the data shadows the function of the registry. -/
theorem abort_bound (escapes : Bool) {reason? : Option String}
    (free : ∀ reason ∈ reason?, QuoteFree reason) :
    ∃ page, ∀ label functions,
      (dialect escapes).read label (Invocation.abort reason?).pageSource = .ok page ∧
      (dialect escapes).BindsAbort label functions page (reason?.getD Signal.defaultReason)
        (reason?.map Json.str).toList fun data => (data.field? "abort").isSome := by
  have callable := callable_abort free
  obtain ⟨start, line, places, same, parsed⟩ :=
    parse_call callable.named callable.free callable.plain callable.outside
  refine ⟨_, fun label functions => ⟨congrArg (Except.mapError _) parsed, ?_⟩⟩
  have given : Value.toItems? (reason?.map Value.text).toList = some (reason?.map Json.str).toList := by
    cases reason? <;> rfl
  have called : ∀ data f, functions.get? "abort" = some f → ¬(data.field? "abort").isSome →
      run ⟨label, escapes, functions⟩ [.print start (.call line (.var line "abort") places)] data
        false = .ofCall "abort" (reason?.map Json.str).toList
          (fun value => Rendering.shown ⟨label, escapes, functions⟩ (.ofJson value))
          (fun message => .page ⟨.invalidOperation, some ⟨"abort", message⟩,
            some ⟨label, argumentLinesAfter line places⟩⟩) (f (reason?.map Json.str).toList) := by
    intro data f registered inSight
    have unbound : Unbound data false "abort" :=
      ⟨Option.not_isSome_iff_eq_none.mp inSight, by decide, nofun⟩
    exact run_call_function start line (by decide) (by decide) unbound registered same
      (stands_of_reason reason?) given
  have failed : ∀ data, functions.get? "abort" = none ∨ (data.field? "abort").isSome → ∃ cause,
      run ⟨label, escapes, functions⟩ [.print start (.call line (.var line "abort") places)] data
        false = ⟨[], .error (.execute cause)⟩ := by
    intro data hidden
    cases field : data.field? "abort" with
    | some found =>
      have inSight : Rendering.Machine.find? ⟨label, escapes, functions⟩ "abort"
          (Page.start data false) = some (.ofJson found) :=
        find?_start (lookup_rootVariables field nofun)
      exact ⟨_, run_call_value start line (by decide) (by decide) inSight same
        (stands_of_reason reason?)⟩
    | none =>
      have unbound : Unbound data false "abort" := ⟨field, by decide, nofun⟩
      have unknown : functions.get? "abort" = none := by
        rw [field] at hidden
        exact hidden.resolve_right nofun
      exact ⟨_, run_call_unknown start line (by decide) (by decide) unbound unknown rfl same
        (stands_of_reason reason?)⟩
  have marked : ∀ data,
      run ⟨label, escapes, functions⟩ [.print start (.call line (.var line "abort") places)] data
        true = ⟨[.abort (reason?.getD Signal.defaultReason), .write []], .ok ()⟩ :=
    fun data => run_call_abort start line same (stands_of_reason reason?)
  exact .of_runs nofun marked called failed

end Page

namespace Sheet

theorem callable_abort {reason? : Option String} (free : ∀ reason ∈ reason?, QuoteFree reason) :
    Callable (Invocation.abort reason?) where
  free := (by decide : Free "abort")
  named := by
    cases reason? with
    | none => nofun
    | some reason => exact List.forall_mem_singleton.mpr (by decide : Identifier "reason")
  fit := by
    cases reason? with
    | none => nofun
    | some reason => exact List.forall_mem_singleton.mpr (free reason rfl)
  notWhole := by
    cases reason? with
    | none => nofun
    | some reason => exact List.forall_mem_singleton.mpr nofun

/-- On a sheet nothing shadows the function of the registry. -/
theorem abort_bound {reason? : Option String} (free : ∀ reason ∈ reason?, QuoteFree reason) :
    ∃ sheet, ∀ label functions,
      dialect.read label (Invocation.abort reason?).sheetSource = .ok sheet ∧
      dialect.BindsAbort label functions sheet (reason?.getD Signal.defaultReason)
        [.obj (reason?.map fun reason => ("reason", .str reason)).toList] fun _ => False := by
  have callable := callable_abort free
  refine ⟨[.print (Nested.callExpr "abort" (Invocation.abort reason?).arguments)],
    fun label functions => ⟨?_, ?_⟩⟩
  · exact dialect_read label (parse?_call callable.free callable.named callable.fit)
  · have stand : ∀ data, ∀ argument ∈ (Invocation.abort reason?).arguments,
        Rendering.Stands (Scope.start data) argument.operand (denoted data argument.operand) := by
      intro data argument inCall
      exact stands_of_denotes (callable.fit argument inCall) (callable.notWhole argument inCall)
        ((map_denoted (denotes_reason data reason?)).1 argument inCall)
    have given : ∀ data, ((Invocation.abort reason?).arguments.map fun argument =>
        (argument.label, denoted data argument.operand)) =
        (reason?.map fun reason => ("reason", Json.str reason)).toList := by
      intro data
      cases reason? <;> rfl
    have sorted : Assoc.ofList (reason?.map fun reason => ("reason", Json.str reason)).toList =
        (reason?.map fun reason => ("reason", Json.str reason)).toList := by
      cases reason? <;> rfl
    have told : reasonOf (reason?.map fun reason => ("reason", Json.str reason)).toList =
        reason?.getD Signal.defaultReason := by
      cases reason? <;> rfl
    have marked : ∀ data, dialect.run label functions
        [.print (Nested.callExpr "abort" (Invocation.abort reason?).arguments)] data true =
          ⟨[.abort (reason?.getD Signal.defaultReason), .write []], .ok ()⟩ := by
      intro data
      rw [dialect_run, run_call_abort label (stand data), given, sorted, told]
    have called : ∀ data f, functions.get? "abort" = some f → ¬False →
        dialect.run label functions
          [.print (Nested.callExpr "abort" (Invocation.abort reason?).arguments)] data false =
          .ofCall "abort" [.obj (reason?.map fun reason => ("reason", .str reason)).toList] display
            (fun message => .sheet label (some ⟨"abort", message⟩))
            (f [.obj (reason?.map fun reason => ("reason", .str reason)).toList]) := by
      intro data f registered _
      rw [dialect_run, run_call_function label rfl registered (stand data), given, Json.ofFields,
        sorted]
    have failed : ∀ data : Json, functions.get? "abort" = none ∨ False → ∃ cause,
        dialect.run label functions
          [.print (Nested.callExpr "abort" (Invocation.abort reason?).arguments)] data false =
          ⟨[], .error (.execute cause)⟩ := by
      intro data unknown
      refine ⟨.sheet label none, ?_⟩
      rw [dialect_run, run_call_unknown label rfl (unknown.resolve_right id)]
    exact .of_runs nofun marked called failed

end Sheet

/-- One tree for every label and registry prints a call of `abort`: on pages, with or without
escaping, and on sheets. -/
theorem abort_is_bound_to_signal {reason? : Option String}
    (free : ∀ reason ∈ reason?, QuoteFree reason) :
    (∀ escapes, ∃ page, ∀ label functions,
      (Page.dialect escapes).parser.parse label functions (Invocation.abort reason?).pageSource =
        .ok ((Page.dialect escapes).template label functions page) ∧
      (Page.dialect escapes).BindsAbort label functions page (reason?.getD Signal.defaultReason)
        (reason?.map Json.str).toList fun data => (data.field? "abort").isSome) ∧
    ∃ sheet, ∀ label functions,
      Sheet.dialect.parser.parse label functions (Invocation.abort reason?).sheetSource =
        .ok (Sheet.dialect.template label functions sheet) ∧
      Sheet.dialect.BindsAbort label functions sheet (reason?.getD Signal.defaultReason)
        [.obj (reason?.map fun reason => ("reason", .str reason)).toList] fun _ => False := by
  constructor
  · intro escapes
    obtain ⟨page, bound⟩ := Page.abort_bound escapes free
    exact ⟨page, fun label functions =>
      ⟨Dialect.parse_of_read functions (bound label functions).1, (bound label functions).2⟩⟩
  · obtain ⟨sheet, bound⟩ := Sheet.abort_bound free
    exact ⟨sheet, fun label functions =>
      ⟨Dialect.parse_of_read functions (bound label functions).1, (bound label functions).2⟩⟩

/-- An empty reason aborts too, with data and a registry that have the name. -/
theorem empty_reason_aborts :
    QuoteFree "" ∧ ∃ page,
      (Page.dialect true).parser.parse "t" (.ofList [("abort", constant)])
          (Invocation.abort (some "")).pageSource =
        .ok ((Page.dialect true).template "t" (.ofList [("abort", constant)]) page) ∧
      (((Page.dialect true).template "t" (.ofList [("abort", constant)]) page).send
        (.abortable (.obj [("abort", .int 1)])) .initial .text).fault? = some (.aborted "") ∧
      ∃ rest, ((Page.dialect true).run "t" (.ofList [("abort", constant)]) page (.obj []) false).events =
        .call "abort" [.str ""] :: rest := by
  have free : ∀ reason ∈ some "", QuoteFree reason := by
    intro reason same
    obtain rfl := Option.some.inj same
    decide
  obtain ⟨page, bound⟩ := (abort_is_bound_to_signal free).1 true
  obtain ⟨parsed, binds⟩ := bound "t" (.ofList [("abort", constant)])
  obtain ⟨rest, called, -⟩ := binds.reachesRegistry (.obj []) constant rfl nofun
  exact ⟨by decide, page, parsed, (binds.marks (.obj [("abort", .int 1)]) .initial .text).1, rest,
    called⟩

end Templating
