import Mathlib.Data.List.Forall2
import Templating.Proofs.Resolution.Dispatch
import Templating.Settings

/-! How settings choose engines. The rules are asked in their order, then the engines' own suffixes if
these follow the rules, and what nothing claims goes to the default engine. The engines' own suffixes
act as three more rules, so that settings can spell them out instead. -/

namespace Templating

variable {fileName : String} {rules : List Rule} {engine : Engine}

theorem endsWith_iff {ending : String} :
    endsWith fileName ending = true ↔ ∃ stem, fileName = stem ++ ending := by
  rw [endsWith, List.isSuffixOf_iff_suffix]
  constructor
  · rintro ⟨stem, split⟩
    refine ⟨String.ofList stem, String.toList_injective ?_⟩
    rw [String.toList_append, String.toList_ofList, split]
  · rintro ⟨stem, rfl⟩
    exact ⟨stem.toList, String.toList_append.symm⟩

namespace Rule

/-- A rule claims the file names that end with one of its suffixes. -/
def Claims (rule : Rule) (fileName : String) : Prop :=
  ∃ suffix ∈ rule.suffixes, ∃ stem, fileName = stem ++ suffix

theorem claims_iff {rule : Rule} :
    rule.Claims fileName ↔ rule.suffixes.any (endsWith fileName) = true := by
  simp only [Claims, List.any_eq_true, endsWith_iff]

end Rule

namespace Matcher

end Matcher

namespace Settings

/-- What a source becomes under a choice: the template of the engine's parser, or the fault of it in
one layer. -/
def outcome (label source : String) : Option Engine → Template
  | none => .failed (.parse .noDefaultParser)
  | some engine =>
    match engine.parser.parse label Registry.empty source with
    | .ok template => template
    | .error fault => .failed (.parse fault)

variable (settings : Settings) (label fileName source : String)

/-- The parts of a resolver that settings make. -/
theorem resolver_eq :
    settings.resolver label =
      ⟨label, Registry.empty,
        settings.rules.map ruleMatcher ++ (if settings.standard then Engine.standardMatchers else []),
        settings.default?.map Engine.parser, none⟩ := by
  obtain ⟨default?, rules, follow⟩ := settings
  cases default? <;> cases follow <;>
    simp [resolver, Resolver.addMatchers, Resolver.new, Resolver.withDefault, Resolver.withStandard]

end Settings

end Templating
