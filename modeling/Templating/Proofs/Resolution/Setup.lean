import Templating.Proofs.Registry.Union
import Templating.Proofs.Resolution.Dispatch
import Templating.Resolver.Call

/-! How calls set a resolver up. A call adds to the part of its own kind and leaves the other parts as
they are, so what a run of calls sets up is told by its single steps, kind by kind: the order of steps
of different kinds does not matter. -/

namespace Templating

variable {resolver : Resolver} {label : String} {calls : List Resolver.Call}

namespace Registry

theorem mergeAll_eq_insertAll (registry : Registry) (others : List Registry) :
    registry.mergeAll others = registry.insertAll (others.flatMap Registry.entries) := by
  induction others generalizing registry with
  | nil => rfl
  | cons other rest ih =>
    have step : registry.mergeAll (other :: rest) = (registry.merge other).mergeAll rest := rfl
    simp only [step, ih, List.flatMap_cons, insertAll, Assoc.insertAll_append, merge]

end Registry

namespace Resolver

/-- A resolver after some single steps: functions and matchers are added, and the last default parser
and the last reader stay. -/
def after (resolver : Resolver) (steps : List Step) : Resolver where
  label := resolver.label
  functions := resolver.functions.insertAll (steps.filterMap Step.function?)
  matchers := resolver.matchers ++ steps.filterMap Step.matcher?
  default? := (steps.filterMap Step.default?).getLast?.or resolver.default?
  reader? := (steps.filterMap Step.reader?).getLast?.getD resolver.reader?

theorem getLast?_cons_or (value : α) (rest : List α) (given : Option α) :
    (value :: rest).getLast?.or given = rest.getLast?.or (some value) := by
  rw [List.getLast?_cons]
  cases rest.getLast? <;> rfl

theorem getLast?_cons_getD (value : α) (rest : List α) (given : α) :
    (value :: rest).getLast?.getD given = rest.getLast?.getD value := by
  rw [List.getLast?_cons]
  rfl

theorem foldl_step (resolver : Resolver) (steps : List Step) :
    steps.foldl step resolver = resolver.after steps := by
  induction steps generalizing resolver with
  | nil =>
    have same : resolver.functions.insertAll [] = resolver.functions := rfl
    simp [after, same]
  | cons first rest ih =>
    rw [List.foldl_cons, ih]
    cases first with
    | function binding => rfl
    | matcher given =>
      simp only [after, step, addMatcher, List.filterMap_cons, Step.function?, Step.matcher?,
        Step.default?, Step.reader?, List.append_assoc, List.singleton_append]
    | default parser =>
      simp only [after, step, withDefault, List.filterMap_cons, Step.function?, Step.matcher?,
        Step.default?, Step.reader?, getLast?_cons_or]
    | reader reader? =>
      simp only [after, step, List.filterMap_cons, Step.function?, Step.matcher?, Step.default?,
        Step.reader?, getLast?_cons_getD]

theorem foldl_functions (resolver : Resolver) (bindings : List Binding) :
    (bindings.map Step.function).foldl step resolver =
      { resolver with functions := resolver.functions.insertAll bindings } := by
  induction bindings generalizing resolver with
  | nil => rfl
  | cons binding rest ih => exact ih (resolver.step (.function binding))

theorem foldl_matchers (resolver : Resolver) (matchers : List Matcher) :
    (matchers.map Step.matcher).foldl step resolver = resolver.addMatchers matchers := by
  induction matchers generalizing resolver with
  | nil => simp [addMatchers]
  | cons given rest ih =>
    rw [List.map_cons, List.foldl_cons, ih]
    simp [step, addMatcher, addMatchers]

/-- A call is its single steps, one after another. -/
theorem call_eq_foldl (resolver : Resolver) (call : Call) :
    resolver.call call = call.steps.foldl step resolver := by
  cases call with
  | function name f => rfl
  | functions registries =>
    have flat : (Call.functions registries).steps =
        (registries.flatMap Registry.entries).map Step.function := by
      rw [Call.steps, List.map_flatMap]
    rw [flat, foldl_functions, ← Registry.mergeAll_eq_insertAll]
    rfl
  | matcher given => rfl
  | matchers given => exact (foldl_matchers resolver given).symm
  | standard => exact (foldl_matchers resolver Engine.standardMatchers).symm
  | default parser => rfl
  | reader reader? => cases reader? <;> rfl

/-- What calls set up is told by their single steps, kind by kind. -/
theorem build_eq_after (label : String) (calls : List Call) :
    build label calls = (new label).after (calls.flatMap Call.steps) := by
  suffices flattened : ∀ resolver : Resolver,
      calls.foldl call resolver = (calls.flatMap Call.steps).foldl step resolver by
    rw [build, flattened, foldl_step]
  induction calls with
  | nil => exact fun _ => rfl
  | cons first rest ih =>
    intro resolver
    rw [List.foldl_cons, ih, List.flatMap_cons, List.foldl_append, call_eq_foldl]

/-- A call leaves the label and the parts of other kinds as they are. -/
structure Spares (resolver : Resolver) (part : Part) (other : Resolver) : Prop where
  label : other.label = resolver.label
  functions : part ≠ .functions → other.functions = resolver.functions
  matchers : part ≠ .matchers → other.matchers = resolver.matchers
  default : part ≠ .default → other.default? = resolver.default?
  reader : part ≠ .reader → other.reader? = resolver.reader?

theorem spares_functions (resolver : Resolver) (functions : Registry) :
    resolver.Spares .functions { resolver with functions } :=
  ⟨rfl, fun other => absurd rfl other, fun _ => rfl, fun _ => rfl, fun _ => rfl⟩

theorem spares_matchers (resolver : Resolver) (matchers : List Matcher) :
    resolver.Spares .matchers { resolver with matchers } :=
  ⟨rfl, fun _ => rfl, fun other => absurd rfl other, fun _ => rfl, fun _ => rfl⟩

theorem spares_default (resolver : Resolver) (default? : Option Parser) :
    resolver.Spares .default { resolver with default? } :=
  ⟨rfl, fun _ => rfl, fun _ => rfl, fun other => absurd rfl other, fun _ => rfl⟩

theorem spares_reader (resolver : Resolver) (reader? : Option Reader) :
    resolver.Spares .reader { resolver with reader? } :=
  ⟨rfl, fun _ => rfl, fun _ => rfl, fun _ => rfl, fun other => absurd rfl other⟩

theorem call_spares (resolver : Resolver) (call : Call) :
    resolver.Spares call.part (resolver.call call) := by
  cases call with
  | function name f => exact resolver.spares_functions _
  | functions registries => exact resolver.spares_functions _
  | matcher given => exact resolver.spares_matchers _
  | matchers given => exact resolver.spares_matchers _
  | standard => exact resolver.spares_matchers _
  | default parser => exact resolver.spares_default _
  | reader reader? =>
    cases reader? with
    | none => exact resolver.spares_reader none
    | some reader => exact resolver.spares_reader (some reader)

/-! ### What reaches parsers -/

/-- A parser that is called gets the label and, under each name, the last function. -/
def Hands (label : String) (bindings : List Binding) : Consult → Prop
  | .parsed _ given functions _ =>
    given = label ∧ ∀ name f, functions.get? name = some f ↔ Registry.LastBinding bindings name f
  | _ => True

theorem CallsOnce.hands {before : List Consult} {parser : Parser} {source : String}
    {resolution : Resolution} {bindings : List Binding}
    (holds : resolver.functions.Holds bindings)
    (others : ∀ use ∈ before, Hands resolver.label bindings use)
    (called : resolver.CallsOnce before parser source resolution) :
    ∀ use ∈ resolution.trace, Hands resolver.label bindings use := by
  intro use there
  rw [called.trace, List.mem_append, List.mem_singleton] at there
  rcases there with earlier | rfl
  · exact others use earlier
  · exact ⟨rfl, fun name f => holds.get?_eq_some_iff⟩

theorem Defaults.hands {before : List Consult} {source : String} {resolution : Resolution}
    {bindings : List Binding} (holds : resolver.functions.Holds bindings)
    (others : ∀ use ∈ before, Hands resolver.label bindings use)
    (defaults : resolver.Defaults before source resolution) :
    ∀ use ∈ resolution.trace, Hands resolver.label bindings use := by
  rcases defaults with ⟨parser, -, called⟩ | ⟨-, rfl⟩
  · exact called.hands holds others
  · exact others

theorem hands_asked (bindings : List Binding) (fileName : String) (matchers : List Matcher) :
    ∀ use ∈ matchers.map (Consult.asked · fileName), Hands label bindings use := by
  intro use there
  obtain ⟨matcher, -, rfl⟩ := List.mem_map.mp there
  trivial

theorem fromNamed_hands {bindings : List Binding} (holds : resolver.functions.Holds bindings)
    (fileName source : String) :
    ∀ use ∈ (resolver.fromNamed fileName source).trace, Hands resolver.label bindings use := by
  rcases resolver.fromNamed_dispatches fileName source with
    ⟨declined, matcher, later, parser, -, -, -, called⟩ | ⟨-, defaults⟩
  · exact called.hands holds (hands_asked bindings fileName _)
  · exact defaults.hands holds (hands_asked bindings fileName _)

theorem fromSource_hands {bindings : List Binding} (holds : resolver.functions.Holds bindings)
    (source : String) :
    ∀ use ∈ (resolver.fromSource source).trace, Hands resolver.label bindings use :=
  (resolver.fromSource_defaults source).hands holds (List.forall_mem_nil _)

theorem fromFile_hands {bindings : List Binding} (holds : resolver.functions.Holds bindings)
    (tree : FileTree) (path : String) :
    ∀ use ∈ (resolver.fromFile tree path).trace, Hands resolver.label bindings use := by
  cases read : resolver.content tree path >>= decodeSource with
  | error cause =>
    rw [fromFile_of_unread read]
    exact List.forall_mem_singleton.mpr trivial
  | ok text =>
    rw [fromFile_of_text read]
    exact List.forall_mem_cons.mpr ⟨trivial, fromNamed_hands holds path text⟩

/-! ### Runs of calls -/

/-- Runs of calls with the same steps of each kind, as far as these count: functions and matchers in
the same order, and the last default parser and the last reader. -/
structure Call.SameKinds (first second : List Call) : Prop where
  functions : ofKind Step.function? first = ofKind Step.function? second
  matchers : ofKind Step.matcher? first = ofKind Step.matcher? second
  default : (ofKind Step.default? first).getLast? = (ofKind Step.default? second).getLast?
  reader : (ofKind Step.reader? first).getLast? = (ofKind Step.reader? second).getLast?

/-- Resolvers that answer alike. -/
structure Agrees (resolver other : Resolver) : Prop where
  select : ∀ fileName, resolver.select fileName = other.select fileName
  fromSource : ∀ source, resolver.fromSource source = other.fromSource source
  fromNamed : ∀ fileName source, resolver.fromNamed fileName source = other.fromNamed fileName source
  fromFile : ∀ tree path, resolver.fromFile tree path = other.fromFile tree path
  functions : resolver.functions = other.functions
  matcherCount : resolver.matchers.length = other.matchers.length

theorem Agrees.refl (resolver : Resolver) : resolver.Agrees resolver :=
  ⟨fun _ => rfl, fun _ => rfl, fun _ _ => rfl, fun _ _ => rfl, rfl, rfl⟩

theorem build_congr {first second : List Call} (same : Call.SameKinds first second) :
    build label first = build label second := by
  have functions := same.functions
  have matchers := same.matchers
  have default := same.default
  have reader := same.reader
  unfold Call.ofKind at functions matchers default reader
  rw [build_eq_after, build_eq_after, after, after, functions, matchers, default, reader]

/-- What calls have set up: under each name the last function, the matchers in their order, the last
default parser, and the last reader. -/
structure SetUp (label : String) (calls : List Call) (resolver : Resolver) : Prop where
  label : resolver.label = label
  functions : resolver.functions.Holds (Call.ofKind Step.function? calls)
  matchers : resolver.matchers = Call.ofKind Step.matcher? calls
  default : resolver.default? = (Call.ofKind Step.default? calls).getLast?
  reader : resolver.reader? = (Call.ofKind Step.reader? calls).getLast?.getD none

theorem build_setUp (label : String) (calls : List Call) : SetUp label calls (build label calls) := by
  rw [build_eq_after]
  exact ⟨rfl, Registry.Holds.ofList _, rfl, Option.or_none, rfl⟩

/-- Runs of calls with the same steps of each kind set up resolvers that answer alike, however the
kinds alternate: such a resolver is what its calls set up, kind by kind. Every parser that is called
gets the last function of each name, whether the function was added before or after the matchers and
the default parser. A call leaves the parts of other kinds as they are. -/
theorem setup_follows_kinds (label : String) :
    (∀ first second, Call.SameKinds first second →
      (build label first).Agrees (build label second)) ∧
    (∀ calls, SetUp label calls (build label calls)) ∧
    (∀ calls tree path fileName source,
      (∀ use ∈ ((build label calls).fromSource source).trace,
        Hands label (Call.ofKind Step.function? calls) use) ∧
      (∀ use ∈ ((build label calls).fromNamed fileName source).trace,
        Hands label (Call.ofKind Step.function? calls) use) ∧
      ∀ use ∈ ((build label calls).fromFile tree path).trace,
        Hands label (Call.ofKind Step.function? calls) use) ∧
    ∀ (resolver : Resolver) call, resolver.Spares call.part (resolver.call call) := by
  refine ⟨fun first second same => ?_, build_setUp label, fun calls tree path fileName source => ?_,
    call_spares⟩
  · rw [build_congr same]
    exact Agrees.refl _
  · have labelled := (build_setUp label calls).label
    have holds := (build_setUp label calls).functions
    have bySource := fromSource_hands holds source
    have byName := fromNamed_hands holds fileName source
    have byFile := fromFile_hands holds tree path
    rw [labelled] at bySource byName byFile
    exact ⟨bySource, byName, byFile⟩

/-- Calls that begin with matchers and a default parser. -/
def matchersFirst : List Call :=
  [.standard, .default Engine.text.parser, .reader none, .function "f" (Registry.failing "1"),
    .functions [.ofList [("g", Registry.failing "2")]], .matcher Sheet.matcher]

/-- Calls that begin with functions, and change the default parser. -/
def functionsFirst : List Call :=
  [.functions [.ofList [("f", Registry.failing "1"), ("g", Registry.failing "2")]],
    .default Engine.html.parser, .reader none, .default Engine.text.parser,
    .matchers (Engine.standardMatchers ++ [Sheet.matcher])]

theorem orders_agree :
    Call.SameKinds matchersFirst functionsFirst ∧
      (build "label" matchersFirst).Agrees (build "label" functionsFirst) ∧
      (build "label" functionsFirst).default? = some Engine.text.parser ∧
      (build "label" functionsFirst).matchers.length = 4 := by
  have same : Call.SameKinds matchersFirst functionsFirst := ⟨rfl, rfl, rfl, rfl⟩
  obtain ⟨agree, setUp, -⟩ := setup_follows_kinds "label"
  exact ⟨same, agree matchersFirst functionsFirst same, (setUp functionsFirst).default,
    congrArg List.length (setUp functionsFirst).matchers⟩

end Resolver

end Templating
