import Mathlib.Data.List.Pairwise
import Templating.Proofs.Resolution.Setup

/-! Matchers that never compete. No suffix of one of the bundled matchers ends with a suffix of another,
so no file name is claimed by two of them; and among matchers that never compete, neither their order
nor how often each is there matters to what is selected. -/

namespace Templating

variable {fileName : String}

/-! ### Suffixes -/

/-- Two endings of which neither ends with the other. -/
def Apart (first second : String) : Bool := !endsWith first second && !endsWith second first

/-- Of two endings of a name, the longer one ends with the shorter. -/
theorem not_endsWith_of_apart {first second : String} (apart : Apart first second = true) :
    ¬(endsWith fileName first = true ∧ endsWith fileName second = true) := by
  rintro ⟨claimed, claimed'⟩
  simp only [Apart, endsWith, Bool.and_eq_true, Bool.not_eq_true', ← Bool.not_eq_true,
    List.isSuffixOf_iff_suffix] at apart claimed claimed'
  rcases List.suffix_or_suffix_of_suffix claimed claimed' with shorter | shorter
  · exact apart.2 shorter
  · exact apart.1 shorter

namespace Matcher

/-- A matcher that accepts no more than the names with some endings. -/
def Needs (matcher : Matcher) (suffixes : List String) : Prop :=
  ∀ fileName, matcher.accepts fileName = true →
    suffixes.any (endsWith fileName) = true

/-- Two matchers that never accept one name. -/
def Excludes (first second : Matcher) : Prop :=
  ∀ fileName, ¬(first.accepts fileName = true ∧ second.accepts fileName = true)

instance : Std.Symm Excludes where
  symm _ _ excludes fileName both := excludes fileName both.symm

theorem excludes_of_apart {first second : Matcher} {suffixes others : List String}
    (needs : first.Needs suffixes) (needs' : second.Needs others)
    (apart : (suffixes.all fun suffix => others.all (Apart suffix)) = true) :
    first.Excludes second := by
  rintro fileName ⟨accepted, accepted'⟩
  obtain ⟨suffix, listed, claimed⟩ := List.any_eq_true.mp (needs fileName accepted)
  obtain ⟨other, listed', claimed'⟩ := List.any_eq_true.mp (needs' fileName accepted')
  exact not_endsWith_of_apart (List.all_eq_true.mp (List.all_eq_true.mp apart suffix listed) other
    listed') ⟨claimed, claimed'⟩

theorem accepts_of_select {matcher : Matcher} {parser : Parser}
    (h : matcher.select fileName = some parser) : matcher.accepts fileName = true :=
  congrArg Option.isSome h

/-! ### Selection -/

/-- Among matchers that never compete, what any of them accepts is selected. -/
theorem answer_askAll_iff {matchers : List Matcher} {parser : Parser}
    (apart : ∀ first ∈ matchers, ∀ second ∈ matchers, first ≠ second → first.Excludes second) :
    (askAll fileName matchers).answer = some parser ↔
      ∃ matcher ∈ matchers, matcher.select fileName = some parser := by
  rcases askAll_cases fileName matchers with
    ⟨declined, matcher, later, found, rfl, -, selected, asked⟩ | ⟨declined, asked⟩
  · rw [asked]
    have listed : matcher ∈ declined ++ matcher :: later :=
      List.mem_append_right _ List.mem_cons_self
    constructor
    · intro same
      exact ⟨matcher, listed, selected.trans same⟩
    · rintro ⟨other, listed', selected'⟩
      have same : matcher = other := Classical.byContradiction fun different =>
        apart matcher listed other listed' different fileName
          ⟨accepts_of_select selected, accepts_of_select selected'⟩
      rw [same] at selected
      exact selected.symm.trans selected'
  · rw [asked]
    constructor
    · intro same
      cases same
    · rintro ⟨other, listed, selected⟩
      cases (declined other listed).symm.trans selected

end Matcher

/-- The matchers of the engines and of sheets. -/
def bundledMatchers : List Matcher := Engine.standardMatchers ++ [Sheet.matcher]

/-- The bundled matchers with their suffixes. -/
def claimants : List (Matcher × List String) :=
  Engine.all.map (fun engine => (engine.matcher, engine.suffixes)) ++
    [(Sheet.matcher, Sheet.suffixes)]

theorem bundledMatchers_eq : bundledMatchers = claimants.map Prod.fst := rfl

theorem needs_of_claimant {claimant : Matcher × List String} (h : claimant ∈ claimants) :
    claimant.1.Needs claimant.2 := by
  intro fileName accepted
  rcases List.mem_append.mp h with ofEngine | ofSheet
  · obtain ⟨engine, -, rfl⟩ := List.mem_map.mp ofEngine
    simpa [Matcher.accepts, Engine.matcher, Engine.claims] using accepted
  · obtain rfl := List.mem_singleton.mp ofSheet
    simpa [Matcher.accepts, Sheet.matcher] using accepted

theorem bundledMatchers_exclude : bundledMatchers.Pairwise Matcher.Excludes := by
  have apart : claimants.Pairwise fun first second =>
      (first.2.all fun suffix => second.2.all (Apart suffix)) = true := by decide
  rw [bundledMatchers_eq]
  exact List.pairwise_map.mpr (apart.imp_of_mem fun listed listed' =>
    Matcher.excludes_of_apart (needs_of_claimant listed) (needs_of_claimant listed'))

theorem excludes_of_bundled {matchers : List Matcher}
    (bundled : ∀ matcher ∈ matchers, matcher ∈ bundledMatchers) :
    ∀ first ∈ matchers, ∀ second ∈ matchers, first ≠ second → first.Excludes second :=
  fun first listed second listed' different =>
    bundledMatchers_exclude.forall (bundled first listed) (bundled second listed') different

namespace Resolver

/-- Of the bundled matchers at most one accepts a file name, so a resolver that has only such matchers
selects what any of them accepts, and their order and repetitions do not matter, however the resolver
was set up. -/
theorem bundled_never_compete :
    (∀ fileName, bundledMatchers.Pairwise fun first second =>
      ¬(first.accepts fileName = true ∧ second.accepts fileName = true)) ∧
    (∀ resolver : Resolver, (∀ matcher ∈ resolver.matchers, matcher ∈ bundledMatchers) →
      (∀ fileName parser, (resolver.select fileName).answer = some parser ↔
        ∃ matcher ∈ resolver.matchers, matcher.select fileName = some parser) ∧
      ∀ other : Resolver, (∀ matcher, matcher ∈ resolver.matchers ↔ matcher ∈ other.matchers) →
        ∀ fileName, (resolver.select fileName).answer = (other.select fileName).answer) ∧
    ∀ calls others : List Call,
      (∀ matcher ∈ Call.ofKind Step.matcher? calls, matcher ∈ bundledMatchers) →
      (∀ matcher, matcher ∈ Call.ofKind Step.matcher? calls ↔
        matcher ∈ Call.ofKind Step.matcher? others) →
      ∀ label label' fileName, ((build label calls).select fileName).answer =
        ((build label' others).select fileName).answer := by
  have selects : ∀ resolver : Resolver,
      (∀ matcher ∈ resolver.matchers, matcher ∈ bundledMatchers) → ∀ fileName parser,
        (resolver.select fileName).answer = some parser ↔
          ∃ matcher ∈ resolver.matchers, matcher.select fileName = some parser :=
    fun resolver bundled fileName parser => Matcher.answer_askAll_iff (excludes_of_bundled bundled)
  have agree : ∀ resolver other : Resolver,
      (∀ matcher ∈ resolver.matchers, matcher ∈ bundledMatchers) →
      (∀ matcher, matcher ∈ resolver.matchers ↔ matcher ∈ other.matchers) →
      ∀ fileName, (resolver.select fileName).answer = (other.select fileName).answer := by
    intro resolver other bundled same fileName
    have bundled' : ∀ matcher ∈ other.matchers, matcher ∈ bundledMatchers :=
      fun matcher listed => bundled matcher ((same matcher).mpr listed)
    refine Option.ext fun parser => ?_
    rw [selects resolver bundled, selects other bundled']
    simp only [same]
  refine ⟨fun fileName => bundledMatchers_exclude.imp fun excludes => excludes fileName,
    fun resolver bundled => ⟨selects resolver bundled, fun other => agree resolver other bundled⟩,
    fun calls others bundled same label label' => ?_⟩
  have held := (build_setUp label calls).matchers
  have held' := (build_setUp label' others).matchers
  exact agree _ _ (by rwa [held]) (by rwa [held, held'])

/-- The engines' matchers twice, around the one of sheets. -/
def standardTwice : List Call := [.standard, .matcher Sheet.matcher, .standard]

/-- The same matchers the other way round, once each. -/
def sheetsFirst : List Call :=
  [.matchers [Sheet.matcher, Engine.format.matcher], .matcher Engine.html.matcher,
    .matcher Engine.text.matcher]

theorem setups_select_alike :
    (∀ matcher ∈ Call.ofKind Step.matcher? standardTwice, matcher ∈ bundledMatchers) ∧
      (∀ matcher, matcher ∈ Call.ofKind Step.matcher? standardTwice ↔
        matcher ∈ Call.ofKind Step.matcher? sheetsFirst) ∧
      (∀ fileName, ((build "site" standardTwice).select fileName).answer =
        ((build "site" sheetsFirst).select fileName).answer) ∧
      ((build "site" standardTwice).select "page.html.tera").answer = some Sheet.parser := by
  have four : Call.ofKind Step.matcher? standardTwice =
      [Engine.text.matcher, Engine.html.matcher, Engine.format.matcher, Sheet.matcher,
        Engine.text.matcher, Engine.html.matcher, Engine.format.matcher] := rfl
  have turned : Call.ofKind Step.matcher? sheetsFirst =
      [Sheet.matcher, Engine.format.matcher, Engine.html.matcher, Engine.text.matcher] := rfl
  have all : bundledMatchers =
      [Engine.text.matcher, Engine.html.matcher, Engine.format.matcher, Sheet.matcher] := rfl
  have bundled : ∀ matcher ∈ Call.ofKind Step.matcher? standardTwice,
      matcher ∈ bundledMatchers := by
    rw [four, all]
    simp
  have same : ∀ matcher, matcher ∈ Call.ofKind Step.matcher? standardTwice ↔
      matcher ∈ Call.ofKind Step.matcher? sheetsFirst := by
    intro matcher
    rw [four, turned]
    simp only [List.mem_cons, List.not_mem_nil, or_false]
    tauto
  have chosen : Sheet.matcher.select "page.html.tera" = some Sheet.parser := by
    have claimed : Sheet.suffixes.any (endsWith "page.html.tera") = true := by decide
    simp only [Sheet.matcher, claimed, if_true]
  obtain ⟨-, selected, alike⟩ := bundled_never_compete
  refine ⟨bundled, same, alike _ _ bundled same "site" "site", ?_⟩
  have held := (build_setUp "site" standardTwice).matchers
  refine ((selected (build "site" standardTwice) (by rwa [held])).1
    "page.html.tera" _).mpr ⟨Sheet.matcher, ?_, chosen⟩
  rw [held, four]
  simp

end Resolver

end Templating
