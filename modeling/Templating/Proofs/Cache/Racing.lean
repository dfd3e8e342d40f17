import Templating.Cache.Shared

/-! Calls that race for the entry of a key agree. Whichever of them comes first to store what it made
decides: from then on the entry stays, every call on the key is answered with it, and what the
others have made is dropped. No call touches the entry of another key. -/

namespace Templating.Cache

variable {ι α : Type}

/-- What a step stores under a key, or would store if the key had no entry. -/
def Event.offer? (key : ι → String) (name : String) : Event ι α → Option α
  | .stored call own _ => if key call = name then some own else none
  | _ => none

/-- What the first call to store under a key had made, if a call came to store. -/
def firstOffer? (key : ι → String) (name : String) (events : List (Event ι α)) : Option α :=
  events.findSome? (Event.offer? key name)

theorem firstOffer?_cons (key : ι → String) (name : String) (event : Event ι α)
    (rest : List (Event ι α)) :
    firstOffer? key name (event :: rest) =
      (event.offer? key name).or (firstOffer? key name rest) := by
  unfold firstOffer?
  rw [List.findSome?_cons]
  cases event.offer? key name <;> rfl

variable {key : ι → String} {name : String}

/-! ### What every step keeps -/

/-- A key has the entry that was stored first, if any was, and the answers of calls on the key are
that entry. -/
structure Agrees (key : ι → String) (name : String) (first? : Option α) (shared : Shared ι α) :
    Prop where
  entry : shared.cache.get? name = first?
  answers : ∀ call entry, key call = name → shared.stage call = .answered entry →
    first? = some entry

namespace Agrees

variable {first? : Option α} {shared next : Shared ι α}

theorem of_same (agrees : Agrees key name first? shared)
    (entry : next.cache.get? name = shared.cache.get? name)
    (answers : ∀ call entry, next.stage call = .answered entry →
      shared.stage call = .answered entry) : Agrees key name first? next where
  entry := entry.trans agrees.entry
  answers call entry own answered := agrees.answers call entry own (answers call entry answered)

theorem quiet {event : Event ι α} (offerless : event.offer? key name = none)
    (agrees : Agrees key name first? next) :
    Agrees key name (first?.or (event.offer? key name)) next := by
  rwa [offerless, Option.or_none]

theorem of_absent (absent : shared.cache.get? name = none)
    (fresh : ∀ call entry, key call = name → shared.stage call ≠ .answered entry) :
    Agrees key name none shared where
  entry := absent
  answers call entry own answered := absurd answered (fresh call entry own)

end Agrees

variable [DecidableEq ι]

/-! ### Steps -/

theorem Shared.stage_move_self (shared : Shared ι α) (call : ι) (stage : Stage α) :
    (shared.move call stage).stage call = stage := if_pos rfl

theorem Shared.stage_move_of_ne (shared : Shared ι α) {call other : ι} (h : other ≠ call)
    (stage : Stage α) : (shared.move call stage).stage other = shared.stage other := if_neg h

theorem Step.get?_of_ne {shared next : Shared ι α} {event : Event ι α} {call : ι}
    (step : Step key shared event next) (own : event.call? = some call) (h : name ≠ key call) :
    next.cache.get? name = shared.cache.get? name := by
  cases step with
  | hit => rfl
  | miss => rfl
  | made => rfl
  | stored holds =>
    obtain rfl : _ = call := Option.some.inj own
    exact get?_insertIfAbsent_of_ne h.symm _
  | got => rfl
  | found => rfl
  | counted => rfl
  | inserted => exact absurd own (by simp [Event.call?])
  | erased => exact absurd own (by simp [Event.call?])
  | cleared => exact absurd own (by simp [Event.call?])

namespace Agrees

variable {first? : Option α} {shared next : Shared ι α}

/-- A call that moves on without an answer changes nothing for the others. -/
theorem move {call : ι} {stage : Stage α} (agrees : Agrees key name first? shared)
    (unanswered : ∀ entry, stage ≠ .answered entry) :
    Agrees key name first? (shared.move call stage) := by
  refine agrees.of_same rfl fun other entry answered => ?_
  by_cases own : other = call
  · rw [own, Shared.stage_move_self] at answered
    exact absurd answered (unanswered entry)
  · rwa [Shared.stage_move_of_ne _ own] at answered

theorem answer {call : ι} {entry : α} (agrees : Agrees key name first? shared)
    (own : key call = name → first? = some entry) :
    Agrees key name first? (shared.move call (.answered entry)) where
  entry := agrees.entry
  answers other got about answered := by
    by_cases same : other = call
    · rw [same, Shared.stage_move_self] at answered
      obtain rfl : entry = got := Stage.answered.inj answered
      exact own (same ▸ about)
    · rw [Shared.stage_move_of_ne _ same] at answered
      exact agrees.answers other got about answered

/-- A call that comes to store finds the first entry there, or stores the first one itself. -/
theorem store {call : ι} {made : α} (agrees : Agrees key name first? shared) :
    Agrees key name (first?.or (if key call = name then some made else none))
      ({ shared with cache := (shared.cache.insertIfAbsent (key call) made).2 }.move call
        (.answered (shared.cache.insertIfAbsent (key call) made).1)) := by
  by_cases own : key call = name
  · have entry := agrees.entry
    rw [← own] at entry
    cases first? with
    | some first =>
      rw [insertIfAbsent_of_some entry]
      exact agrees.answer fun _ => rfl
    | none =>
      -- No call on the key has been answered, as there was nothing to answer with.
      rw [insertIfAbsent_of_none entry, if_pos own]
      refine answer ⟨?_, fun other got about answered => ?_⟩ fun _ => rfl
      · rw [get?_insert, if_pos own]
        rfl
      · exact absurd (agrees.answers other got about answered) (by simp)
  · rw [if_neg own, Option.or_none]
    refine answer (agrees.of_same ?_ fun _ _ => id) fun about => absurd about own
    exact get?_insertIfAbsent_of_ne own made

theorem step {event : Event ι α} (agrees : Agrees key name first? shared)
    (step : Step key shared event next)
    (spares : event.isDirect → next.cache.get? name = shared.cache.get? name) :
    Agrees key name (first?.or (event.offer? key name)) next := by
  cases step with
  | hit waits there =>
    have answered := agrees.answer fun own => by rw [← agrees.entry, ← own, there]
    exact quiet rfl answered
  | miss waits absent => exact quiet rfl (agrees.move nofun)
  | made entry missed => exact quiet rfl (agrees.move nofun)
  | stored holds => exact agrees.store
  | got => exact quiet rfl agrees
  | found => exact quiet rfl agrees
  | counted => exact quiet rfl agrees
  | inserted => exact quiet rfl (agrees.of_same (spares rfl) fun _ _ => id)
  | erased => exact quiet rfl (agrees.of_same (spares rfl) fun _ _ => id)
  | cleared => exact quiet rfl (agrees.of_same (spares rfl) fun _ _ => id)

theorem steps {events : List (Event ι α)} (agrees : Agrees key name first? shared)
    (steps : Steps key name shared events next) :
    Agrees key name (first?.or (firstOffer? key name events)) next := by
  induction steps generalizing first? with
  | done => rwa [firstOffer?, List.findSome?_nil, Option.or_none]
  | next step spares _ ih =>
    rw [firstOffer?_cons, ← Option.or_assoc]
    exact ih (agrees.step step spares)

end Agrees

/-! ### Whole runs -/

section Runs

variable {start stop : Shared ι α} {events : List (Event ι α)}

/-- A call that no one disturbs is answered as when the cache is its own. -/
theorem undisturbed_call (shared : Shared ι α) (call : ι) (made : α)
    (waits : shared.stage call = .waiting) :
    ∃ events last, Steps key name shared events last ∧
      (∀ event ∈ events, event.call? = some call) ∧
      last.stage call = .answered
        (shared.cache.getOrInsertWith (key call) fun cache => (made, cache)).1 ∧
      last.cache = (shared.cache.getOrInsertWith (key call) fun cache => (made, cache)).2 := by
  cases there : shared.cache.get? (key call) with
  | some entry =>
    refine ⟨[.hit call entry], shared.move call (.answered entry),
      .next (.hit waits there) nofun (.done _), ?_, ?_, ?_⟩
    · simp [Event.call?]
    · rw [Shared.stage_move_self, getOrInsertWith_of_some there]
    · rw [getOrInsertWith_of_some there]
      rfl
  | none =>
    let missed := shared.move call .missed
    let holding := missed.move call (.holding made)
    have looked : missed.stage call = .missed := shared.stage_move_self call _
    have holds : holding.stage call = .holding made := missed.stage_move_self call _
    refine ⟨_, _, .next (.miss waits there) nofun
      (.next (.made made looked) nofun
        (.next (.stored holds) nofun (.done _))), ?_, ?_, ?_⟩
    · simp [Event.call?]
    · rw [Shared.stage_move_self, getOrInsertWith_of_none there]
      rfl
    · rw [getOrInsertWith_of_none there]
      rfl

/-- Where a key has no entry and no call on it is answered yet, the answer of every call on the key is
what the first call to store had made. From that step on the entry stays, a look-up finds it, and
what another call has made is dropped. Calls on the key leave all other entries alone. -/
theorem racing_calls_agree (absent : start.cache.get? name = none)
    (fresh : ∀ call entry, key call = name → start.stage call ≠ .answered entry)
    (steps : Steps key name start events stop) :
    (∀ call entry, key call = name → stop.stage call = .answered entry →
      firstOffer? key name events = some entry) ∧
    (∀ first, firstOffer? key name events = some first →
      ∀ more later, Steps key name stop more later →
        later.cache.get? name = some first ∧
        (∀ call entry, key call = name → later.stage call = .answered entry → entry = first) ∧
        (∀ next seen?, Step key later (.got name seen?) next → seen? = some first) ∧
        (∀ next isThere, Step key later (.found name isThere) next → isThere = true) ∧
        ∀ next call made entry, key call = name → Step key later (.stored call made entry) next →
          entry = first ∧ next.cache = later.cache) ∧
    ∀ next event call, key call = name → event.call? = some call → Step key stop event next →
      ∀ other, other ≠ name → next.cache.get? other = stop.cache.get? other := by
  have agrees : Agrees key name (firstOffer? key name events) stop :=
    (Agrees.of_absent absent fresh).steps steps
  refine ⟨agrees.answers, ?_, ?_⟩
  · intro first firstMade more later moreSteps
    -- An offer that comes after the first one changes nothing.
    have after := agrees.steps moreSteps
    rw [firstMade, Option.some_or] at after
    refine ⟨after.entry, ?_, ?_, ?_, ?_⟩
    · intro call entry own answered
      exact (Option.some.inj (after.answers call entry own answered)).symm
    · intro next seen? step
      cases step with
      | got => exact after.entry
    · intro next isThere step
      cases step with
      | found => rw [contains, after.entry, Option.isSome_some]
    · intro next call made entry own step
      cases step with
      | stored holds =>
        rw [insertIfAbsent_of_some (own.symm ▸ after.entry)]
        exact ⟨rfl, rfl⟩
  · intro next event call own taken step other apart
    exact step.get?_of_ne taken (own.symm ▸ apart)

/-- Two calls miss the same key; the one that makes its entry later stores first. -/
theorem slower_offer_dropped :
    ∃ stop : Shared Bool String,
      Steps (fun _ => "page") "page" ⟨.empty, fun _ => .waiting⟩
        [.miss false, .miss true, .made false "one", .made true "two", .stored true "two" "two",
          .stored false "one" "two"] stop ∧
      stop.stage false = .answered "two" ∧ stop.stage true = .answered "two" ∧
      stop.cache.get? "page" = some "two" := by
  let start : Shared Bool String := ⟨.empty, fun _ => .waiting⟩
  let missed : Shared Bool String := (start.move false .missed).move true .missed
  let holding : Shared Bool String :=
    (missed.move false (.holding "one")).move true (.holding "two")
  let stored : Shared Bool String :=
    { holding with cache := holding.cache.insert "page" "two" }.move true (.answered "two")
  have there : stored.cache.get? "page" = some "two" := by
    rw [show stored.cache = holding.cache.insert "page" "two" from rfl, get?_insert, if_pos rfl]
  have looks : Step (fun _ => "page") start (.miss false) (start.move false .missed) := .miss rfl rfl
  have looksToo : Step (fun _ => "page") (start.move false .missed) (.miss true) missed :=
    .miss rfl rfl
  have first : Step (fun _ => "page") holding (.stored true "two" "two") stored := .stored rfl
  have second : Step (fun _ => "page") stored (.stored false "one" "two")
      (stored.move false (.answered "two")) := by
    have step : Step (fun _ => "page") stored _ _ := .stored (show stored.stage false = _ from rfl)
    rwa [insertIfAbsent_of_some there] at step
  have steps : Steps (fun _ => "page") "page" start _ (stored.move false (.answered "two")) :=
    .next looks nofun (.next looksToo nofun (.next (.made "one" rfl) nofun
      (.next (.made "two" rfl) nofun (.next first nofun (.next second nofun (.done _))))))
  have agree := racing_calls_agree rfl nofun steps
  exact ⟨_, steps, rfl, rfl, (agree.2.1 "two" rfl [] _ (.done _)).1⟩

end Runs

end Templating.Cache
