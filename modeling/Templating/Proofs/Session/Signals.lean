import Templating.Proofs.File.Save
import Templating.Proofs.Session.Marks

/-! Signals over whole sessions. The reason of a signal is the first one recorded since the signal
was made or last reset, whoever recorded it: a caller through any handle, or a template that
renders. A render of a ready template fails with the reason that the signal holds when its
execution ends, and so it goes on until a reset. What is done to one signal reaches a render with
another signal, or with none, only through the files that are there for its output. -/

namespace Templating

/-! ### Places -/

namespace SignalTable

variable {table : SignalTable} {handle : String} {place : Nat}

/-- The signal at a place; one that is not made yet has no reason. -/
def signalAt (table : SignalTable) (place : Nat) : Signal := table.signals[place]?.getD .clear

/-- Handles lead to signals. -/
def Bounded (table : SignalTable) : Prop :=
  ∀ handle place, table.place? handle = some place → place < table.signals.length

theorem get?_of_place (leads : table.place? handle = some place) :
    table.get? handle = table.signals[place]? := by
  rw [place?] at leads
  simp only [get?, leads]
  rfl

theorem get?_of_no_place (lost : table.place? handle = none) : table.get? handle = none := by
  rw [place?] at lost
  simp only [get?, lost]
  rfl

theorem Bounded.get? (bounded : table.Bounded) (leads : table.place? handle = some place) :
    table.get? handle = some (table.signalAt place) := by
  have within := bounded handle place leads
  rw [get?_of_place leads, signalAt, List.getElem?_eq_getElem within, Option.getD_some]

/-- Changes the signal that a handle leads to, if it leads to one. -/
def update (table : SignalTable) (handle : String) (f : Signal → Signal) : SignalTable :=
  match table.get? handle with
  | some signal => table.set handle (f signal)
  | none => table

theorem update_of_place (leads : table.place? handle = some place) (f : Signal → Signal) :
    table.update handle f = { table with signals := table.signals.modify place f } := by
  have found := get?_of_place leads
  rw [place?] at leads
  cases there : table.signals[place]? with
  | none =>
    -- The handle leads beyond the signals, where there is nothing to change.
    have outside := List.getElem?_eq_none_iff.mp there
    rw [update, found, there, List.modify_eq_self outside]
  | some signal =>
    have : Inhabited Signal := ⟨.clear⟩
    simp only [update, found, there, set, leads, List.modify_eq_set, Option.getD_some]

theorem update_of_no_place (lost : table.place? handle = none) (f : Signal → Signal) :
    table.update handle f = table := by
  rw [update, get?_of_no_place lost]

theorem handles_update (table : SignalTable) (handle : String) (f : Signal → Signal) :
    (table.update handle f).handles = table.handles := by
  cases leads : table.place? handle with
  | none => rw [update_of_no_place leads]
  | some place => rw [update_of_place leads]

theorem length_update (table : SignalTable) (handle : String) (f : Signal → Signal) :
    (table.update handle f).signals.length = table.signals.length := by
  cases leads : table.place? handle with
  | none => rw [update_of_no_place leads]
  | some place =>
    rw [update_of_place leads]
    exact List.length_modify _ _ _

theorem getElem?_update (table : SignalTable) (handle : String) (f : Signal → Signal)
    (place : Nat) :
    (table.update handle f).signals[place]? =
      if table.place? handle = some place then table.signals[place]?.map f
      else table.signals[place]? := by
  cases leads : table.place? handle with
  | none => rw [update_of_no_place leads, if_neg (by simp)]
  | some other =>
    rw [update_of_place leads, List.getElem?_modify]
    by_cases same : other = place
    · rw [if_pos (congrArg some same)]
      simp [same]
    · rw [if_neg fun h => same (Option.some.inj h)]
      simp [same]

theorem reset_eq_update (table : SignalTable) (handle : String) :
    table.reset handle = table.update handle fun _ => Signal.clear := by
  have : Inhabited Signal := ⟨.clear⟩
  cases leads : table.place? handle with
  | none =>
    rw [update_of_no_place leads]
    rw [place?] at leads
    simp only [reset, set, leads]
  | some place =>
    rw [update_of_place leads, List.modify_eq_set]
    rw [place?] at leads
    simp only [reset, set, leads]

end SignalTable

/-! ### Sessions -/

/-- The handle of the signal that an action may mark. -/
def Action.handle? : Action → Option String
  | abort handle _ => some handle
  | reset handle => some handle
  | render _ _ handle? _ => handle?
  | _ => none

namespace Session

variable {session : Session} {action : Action} {handle : String} {place : Nat}

/-- The marks that an action makes on the signal of its handle. -/
def marksOf (session : Session) : Action → List Mark
  | .abort _ reason => [.abort reason]
  | .reset _ => [.reset]
  | .render template data handle? sink => template.marks (session.context data handle?) sink
  | _ => []

/-- Whether an action marks the signal at a place. -/
def Marks (session : Session) (place : Nat) (action : Action) : Prop :=
  action.handle?.bind session.signals.place? = some place

instance (session : Session) (place : Nat) (action : Action) :
    Decidable (session.Marks place action) := by
  unfold Marks
  infer_instance

/-- The marks that actions make on the signal at a place, in order. -/
def history (place : Nat) : Session → List Action → List Mark
  | _, [] => []
  | session, action :: rest =>
    (if session.Marks place action then session.marksOf action else []) ++
      history place (session.act action) rest

theorem history_append (place : Nat) (session : Session) (actions more : List Action) :
    history place session (actions ++ more) =
      history place session actions ++ history place (session.run actions) more := by
  induction actions generalizing session with
  | nil => rfl
  | cons action rest ih =>
    rw [List.cons_append, history, history, ih, List.append_assoc]
    rfl

/-- An action with a handle does its marks to the signal of the handle, and nothing else to signals. -/
theorem signals_act (marker : action.handle? = some handle) :
    (session.act action).signals =
      session.signals.update handle (·.marked (session.marksOf action)) := by
  cases action with
  | create other => nomatch marker
  | share handle other => nomatch marker
  | abort other reason =>
    obtain rfl : other = handle := Option.some.inj marker
    rfl
  | reset other =>
    obtain rfl : other = handle := Option.some.inj marker
    exact session.signals.reset_eq_update other
  | render template data handle? sink =>
    obtain rfl : handle? = some handle := marker
    have after := template.signal?_send (session.context data (some handle)) session.tree sink
    have own : (session.context data (some handle)).signal? = session.signals.get? handle := rfl
    rw [act, reply, after, own, SignalTable.update]
    cases session.signals.get? handle <;> rfl

/-- An action without a handle keeps all signals; at most it makes one more, which is clear. -/
theorem signalAt_act_of_none (silent : action.handle? = none) :
    (session.act action).signals.signalAt place = session.signals.signalAt place := by
  cases action with
  | create handle =>
    have made : (session.act (.create handle)).signals.signals =
        session.signals.signals ++ [.clear] := rfl
    rw [SignalTable.signalAt, SignalTable.signalAt, made]
    rcases Nat.lt_or_ge place session.signals.signals.length with old | new
    · rw [List.getElem?_append_left old]
    · -- The new signal is clear, and so is what is not made yet.
      rw [List.getElem?_append_right new, List.getElem?_eq_none new]
      cases place - session.signals.signals.length <;> rfl
  | share handle other =>
    have kept : (session.act (.share handle other)).signals.signals = session.signals.signals := by
      simp only [act, SignalTable.share]
      split <;> rfl
    rw [SignalTable.signalAt, SignalTable.signalAt, kept]
  | abort handle reason => nomatch silent
  | reset handle => nomatch silent
  | render template data handle? sink =>
    obtain rfl : handle? = none := silent
    rfl

theorem bounded_act (bounded : session.signals.Bounded) (action : Action) :
    (session.act action).signals.Bounded := by
  intro name place leads
  cases marker : action.handle? with
  | some handle =>
    rw [signals_act marker, SignalTable.place?, SignalTable.handles_update] at leads
    rw [signals_act marker, SignalTable.length_update]
    exact bounded name place leads
  | none =>
    cases action with
    | create handle =>
      have longer : (session.act (.create handle)).signals.signals.length =
          session.signals.signals.length + 1 := List.length_append
      rw [longer]
      simp only [act, SignalTable.create, SignalTable.place?, Assoc.get?_insert] at leads
      split at leads
      · have last := Option.some.inj leads
        omega
      · have within := bounded name place leads
        omega
    | share handle other =>
      simp only [act, SignalTable.share] at leads ⊢
      split at leads
      · next shared found =>
        simp only [SignalTable.place?, Assoc.get?_insert] at leads
        split at leads
        · exact bounded handle place (found.trans leads)
        · exact bounded name place leads
      · exact bounded name place leads
    | abort handle reason => nomatch marker
    | reset handle => nomatch marker
    | render template data handle? sink =>
      obtain rfl : handle? = none := marker
      exact bounded name place leads

theorem bounded_run (bounded : session.signals.Bounded) (actions : List Action) :
    (session.run actions).signals.Bounded := by
  induction actions generalizing session with
  | nil => exact bounded
  | cons action rest ih => exact ih (bounded_act bounded action)

theorem bounded_start (tree : FileTree) : (start tree).signals.Bounded := nofun

theorem signalAt_act (bounded : session.signals.Bounded) (place : Nat) (action : Action) :
    (session.act action).signals.signalAt place =
      (session.signals.signalAt place).marked
        (if session.Marks place action then session.marksOf action else []) := by
  cases marker : action.handle? with
  | none =>
    have silent : ¬session.Marks place action := by
      rw [Marks, marker]
      nofun
    rw [signalAt_act_of_none marker, if_neg silent]
    rfl
  | some handle =>
    have marks : session.Marks place action ↔ session.signals.place? handle = some place := by
      rw [Marks, marker, Option.bind_some]
    rw [signals_act marker, SignalTable.signalAt, SignalTable.getElem?_update]
    by_cases leads : session.signals.place? handle = some place
    · have within := bounded handle place leads
      rw [if_pos leads, if_pos (marks.mpr leads), SignalTable.signalAt,
        List.getElem?_eq_getElem within]
      rfl
    · rw [if_neg leads, if_neg (leads ∘ marks.mp)]
      rfl

theorem signalAt_run (bounded : session.signals.Bounded) (place : Nat) (actions : List Action) :
    (session.run actions).signals.signalAt place =
      (session.signals.signalAt place).marked (history place session actions) := by
  induction actions generalizing session with
  | nil => rfl
  | cons action rest ih =>
    rw [history, Signal.marked_append, ← signalAt_act bounded]
    exact ih (bounded_act bounded action)

/-! ### Other signals -/

/-- Two sessions with the same handles and with the same signal at a place. -/
structure Alike (place : Nat) (one other : Session) : Prop where
  handles : one.signals.handles = other.signals.handles
  count : one.signals.signals.length = other.signals.signals.length
  signal : one.signals.signals[place]? = other.signals.signals[place]?

namespace Alike

variable {one other : Session}

theorem refl (place : Nat) (session : Session) : Alike place session session := ⟨rfl, rfl, rfl⟩

theorem symm (alike : Alike place one other) : Alike place other one :=
  ⟨alike.handles.symm, alike.count.symm, alike.signal.symm⟩

theorem trans {last : Session} (alike : Alike place one other) (next : Alike place other last) :
    Alike place one last :=
  ⟨alike.handles.trans next.handles, alike.count.trans next.count,
    alike.signal.trans next.signal⟩

theorem place? (alike : Alike place one other) (handle : String) :
    one.signals.place? handle = other.signals.place? handle := by
  rw [SignalTable.place?, SignalTable.place?, alike.handles]

theorem context (alike : Alike place one other) {handle? : Option String}
    (leads : ∀ handle ∈ handle?, one.signals.place? handle = some place)
    (data : Except Fault Json) : one.context data handle? = other.context data handle? := by
  cases handle? with
  | none => rfl
  | some handle =>
    have here := leads handle rfl
    have there := (alike.place? handle).symm.trans here
    rw [Session.context, Session.context, Option.bind_some, Option.bind_some,
      SignalTable.get?_of_place here, SignalTable.get?_of_place there, alike.signal]

theorem marksOf (alike : Alike place one other) (marks : one.Marks place action) :
    one.marksOf action = other.marksOf action := by
  cases action with
  | create handle => rfl
  | share handle other => rfl
  | abort handle reason => rfl
  | reset handle => rfl
  | render template data handle? sink =>
    have leads : ∀ handle ∈ handle?, one.signals.place? handle = some place := by
      rintro handle rfl
      exact marks
    rw [Session.marksOf, Session.marksOf, alike.context leads]

theorem act (alike : Alike place one other) (action : Action) :
    Alike place (one.act action) (other.act action) := by
  cases marker : action.handle? with
  | some handle =>
    refine ⟨?_, ?_, ?_⟩
    · rw [signals_act marker, signals_act marker, SignalTable.handles_update,
        SignalTable.handles_update, alike.handles]
    · rw [signals_act marker, signals_act marker, SignalTable.length_update,
        SignalTable.length_update, alike.count]
    · rw [signals_act marker, signals_act marker, SignalTable.getElem?_update,
        SignalTable.getElem?_update, ← alike.place? handle, alike.signal]
      by_cases leads : one.signals.place? handle = some place
      · have marks : one.Marks place action := by rw [Marks, marker, Option.bind_some, leads]
        rw [alike.marksOf marks]
      · rw [if_neg leads, if_neg leads]
  | none =>
    cases action with
    | create handle =>
      have tails : one.signals.signals.length = other.signals.signals.length := alike.count
      refine ⟨?_, ?_, ?_⟩
      · simp only [Session.act, SignalTable.create, alike.handles, tails]
      · simp only [Session.act, SignalTable.create, List.length_append, tails]
      · simp only [Session.act, SignalTable.create, List.getElem?_append, alike.signal, tails]
    | share handle name =>
      simp only [Session.act, SignalTable.share, alike.handles]
      split
      · exact ⟨rfl, alike.count, alike.signal⟩
      · exact alike
    | abort handle reason => nomatch marker
    | reset handle => nomatch marker
    | render template data handle? sink =>
      obtain rfl : handle? = none := marker
      exact ⟨alike.handles, alike.count, alike.signal⟩

end Alike

/-- An action is an abort or a reset of another signal than the one at a place. -/
def Foreign (session : Session) (place : Nat) : Action → Prop
  | .abort handle _ => session.signals.place? handle ≠ some place
  | .reset handle => session.signals.place? handle ≠ some place
  | _ => False

instance (session : Session) (place : Nat) (action : Action) :
    Decidable (session.Foreign place action) := by
  unfold Foreign
  cases action <;> infer_instance

/-- Actions without the aborts and resets of other signals than the one at a place. -/
def without (place : Nat) : Session → List Action → List Action
  | _, [] => []
  | session, action :: rest =>
    if session.Foreign place action then without place (session.act action) rest
    else action :: without place (session.act action) rest

/-- What is done to another signal leaves the one at the place, and the files. -/
theorem Foreign.act (foreign : session.Foreign place action) :
    Alike place session (session.act action) ∧ (session.act action).tree = session.tree := by
  have update {handle : String} (marker : action.handle? = some handle)
      (apart : session.signals.place? handle ≠ some place) :
      Alike place session (session.act action) := by
    refine ⟨?_, ?_, ?_⟩
    · rw [signals_act marker, SignalTable.handles_update]
    · rw [signals_act marker, SignalTable.length_update]
    · rw [signals_act marker, SignalTable.getElem?_update, if_neg apart]
  cases action with
  | abort handle reason => exact ⟨update rfl foreign, rfl⟩
  | reset handle => exact ⟨update rfl foreign, rfl⟩
  | create handle => exact foreign.elim
  | share handle other => exact foreign.elim
  | render template data handle? sink => exact foreign.elim

theorem alike_run_without {one other : Session} (alike : Alike place one other)
    (actions : List Action) :
    Alike place (one.run actions) (other.run (one.without place actions)) := by
  induction actions generalizing one other with
  | nil => exact alike
  | cons action rest ih =>
    by_cases foreign : one.Foreign place action
    · rw [without, if_pos foreign]
      exact ih (foreign.act.1.symm.trans alike)
    · rw [without, if_neg foreign]
      exact ih (alike.act action)

/-- Runs that differ in aborts and resets of other signals alone lead to the same signal. -/
theorem alike_of_without {actions others : List Action}
    (same : session.without place others = session.without place actions) :
    Alike place (session.run others) (session.run actions) := by
  have one := alike_run_without (.refl place session) others
  have two := alike_run_without (.refl place session) actions
  rw [same] at one
  exact one.trans two.symm

/-! ### Runs from the start -/

/-- Where nothing is reset, a signal with a reason keeps it to the end of the next execution, and a
render of a ready template fails with it. -/
theorem reply_of_reason (bounded : session.signals.Bounded) {reason : String}
    {executor : Executor} {data : Except Fault Json} {sink : Sink}
    (leads : session.signals.place? handle = some place)
    (held : session.signals.signalAt place = ⟨some reason⟩)
    (lasting : .reset ∉
      (Template.ready executor).marks (session.context data (some handle)) sink) :
    (session.reply (.ready executor) data (some handle) sink).fault? = some (.aborted reason) ∧
      (session.reply (.ready executor) data (some handle) sink).treeAfter session.tree =
        session.tree := by
  have signal : (session.context data (some handle)).signal? = some ⟨some reason⟩ := by
    rw [← held]
    exact bounded.get? leads
  have left : (executor.execute (session.context data (some handle)) sink.receiver).signal? =
      some ⟨some reason⟩ := by
    rw [← Template.signal?_send_ready executor _ session.tree, Template.signal?_send, signal,
      Option.map_some, Signal.marked_of_reason lasting]
  exact Template.send_of_marked session.tree left

/-- After any actions a signal has the first reason recorded since it was made or last reset. A ready
template's render fails with the reason that its signal holds when the execution ends; once there
is a reason, every such render fails with it and touches no file until a reset. Aborts and resets
of other signals change nothing that a render runs with, so its reply is the same where it finds the
same tree, and but for the tree it is the same in any case, unless there are octets to save to a file. -/
theorem first_reason_decides (tree : FileTree) (actions : List Action) (place : Nat) :
    let now := (start tree).run actions
    (∀ handle, now.signals.place? handle = some place →
      ∃ signal, now.signals.get? handle = some signal ∧
        signal.reason? = Mark.firstReason? (history place (start tree) actions) ∧
        signal.isAborted = signal.reason?.isSome ∧
        signal.fault? = signal.reason?.map Fault.aborted) ∧
    (∀ handle executor data sink reason,
      (executor.execute (now.context data (some handle)) sink.receiver).signal? =
        some ⟨some reason⟩ →
      (now.reply (.ready executor) data (some handle) sink).fault? = some (.aborted reason)) ∧
    (∀ handle reason, now.signals.place? handle = some place →
      now.signals.get? handle = some ⟨some reason⟩ →
      ∀ more again executor data sink,
        let later := now.run more
        let render := Action.render (.ready executor) data (some again) sink
        later.signals.place? again = some place →
        .reset ∉ history place now (more ++ [render]) →
        (later.reply (.ready executor) data (some again) sink).fault? = some (.aborted reason) ∧
          (later.act render).tree = later.tree) ∧
    ∀ handle? template data sink, (∀ handle ∈ handle?, now.signals.place? handle = some place) →
      (∀ action, now.Foreign place action →
        (now.act action).reply template data handle? sink = now.reply template data handle? sink) ∧
      ∀ others, (start tree).without place others = (start tree).without place actions →
        let otherwise := (start tree).run others
        otherwise.context data handle? = now.context data handle? ∧
        (otherwise.tree = now.tree →
          otherwise.reply template data handle? sink = now.reply template data handle? sink) ∧
        ((sink.isFile = true →
            ∃ fault, (template.renderBytes (now.context data handle?)).outcome = .error fault) →
          otherwise.reply template data handle? sink =
            (now.reply template data handle? sink).inTree otherwise.tree) := by
  intro now
  have bounded : now.signals.Bounded := bounded_run (bounded_start tree) actions
  refine ⟨?_, ?_, ?_, ?_⟩
  · -- The history of the place from the start on, where its signal is clear.
    intro handle leads
    refine ⟨now.signals.signalAt place, bounded.get? leads, ?_, rfl, rfl⟩
    have clear : (start tree).signals.signalAt place = .clear := rfl
    rw [signalAt_run (bounded_start tree), clear, Signal.reason?_marked_clear]
  · intro handle executor data sink reason held
    exact (Template.send_of_marked now.tree held).1
  · intro handle reason leads held more again executor data sink later render leadsAgain lasting
    have first : now.signals.signalAt place = ⟨some reason⟩ :=
      Option.some.inj ((bounded.get? leads).symm.trans held)
    -- No reset, neither by what comes before the render nor by its own template.
    rw [history_append, List.mem_append, not_or] at lasting
    obtain ⟨lastingMore, lastingRender⟩ := lasting
    have kept : later.signals.signalAt place = ⟨some reason⟩ := by
      rw [signalAt_run bounded, first, Signal.marked_of_reason lastingMore]
    have marks : later.Marks place render := leadsAgain
    rw [history, if_pos marks, history, List.append_nil] at lastingRender
    exact reply_of_reason (bounded_run bounded more) leadsAgain kept lastingRender
  · intro handle? template data sink leads
    refine ⟨fun action foreign => ?_, fun others same => ?_⟩
    · obtain ⟨alike, files⟩ := foreign.act
      rw [reply, reply, files, alike.context leads]
    · intro otherwise
      have contexts : otherwise.context data handle? = now.context data handle? :=
        ((alike_of_without same).symm.context leads data).symm
      refine ⟨contexts, fun files => ?_, fun unsaved => ?_⟩
      · rw [reply, reply, contexts, files]
      · rw [reply, reply, contexts]
        exact Template.send_inTree unsaved now.tree otherwise.tree

/-- A handle is shared, the signal is marked through it, and a template that marks the signal again
and then fails is rendered to a file: the answer is the first reason, before the reset. A render without
a signal gives the same text with the mark and without it. -/
theorem shared_reason_wins :
    let unmarked := [Action.create "one", .share "one" "two"]
    let marked := unmarked ++ [.abort "two" "first"]
    let now := (start .initial).run marked
    let out := Sink.path "out" .unlimited
    let render := Action.render (.ready Template.stopping) (.ok .null) (some "one") out
    (now.reply (.ready Template.stopping) (.ok .null) (some "one") out).fault? =
        some (.aborted "first") ∧
      (now.act render).tree = now.tree ∧
      ((start .initial).run (marked ++ [render, .reset "one"])).signals.get? "two" =
        some .clear ∧
      ((start .initial).run unmarked).reply (.ready Template.marking) (.ok .null) none .text =
        now.reply (.ready Template.marking) (.ok .null) none .text := by
  intro unmarked marked now out render
  have leads : now.signals.place? "one" = some 0 := by decide
  have held : now.signals.get? "one" = some ⟨some "first"⟩ := by decide
  have lasting : .reset ∉ history 0 now ([] ++ [render]) := by decide
  obtain ⟨-, -, aborted, -⟩ := first_reason_decides .initial marked 0
  obtain ⟨fault, files⟩ := aborted "one" "first" leads held [] "one" Template.stopping (.ok .null)
    out leads lasting
  -- No signal has the second place, so that the mark on the first is foreign to a render without one.
  obtain ⟨-, -, -, apart⟩ := first_reason_decides .initial marked 1
  obtain ⟨-, alike⟩ := apart none (.ready Template.marking) (.ok .null) .text nofun
  obtain ⟨-, -, same⟩ := alike unmarked rfl
  exact ⟨fault, files, by decide, same nofun⟩

/-- A file is made for the first signal, and then one is to be made below its path for the second. The
abort of the first signal clears the way. -/
theorem abort_clears_way :
    let made := [Action.create "first", .create "second"]
    let blocking :=
      Action.render (.ready Template.marking) (.ok .null) (some "first") (.path "d" .unlimited)
    let calm := (start .initial).run (made ++ [blocking])
    let stopped := (start .initial).run (made ++ [.abort "first" "stop", blocking])
    let below := Sink.path "d/x" .unlimited
    calm.signals.place? "second" = some 1 ∧
      (start .initial).without 1 (made ++ [.abort "first" "stop", blocking]) =
        (start .initial).without 1 (made ++ [blocking]) ∧
      (calm.reply (.ready Template.marking) (.ok .null) (some "second") below).fault? =
        some (.createDir "d" (.system .exists)) ∧
      (stopped.reply (.ready Template.marking) (.ok .null) (some "second") below).fault? = none := by
  intro made blocking calm stopped below
  exact ⟨by decide, rfl, rfl, rfl⟩

end Session

end Templating
