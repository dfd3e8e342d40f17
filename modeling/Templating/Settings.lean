import Templating.Engine

/-! Settings: which engine takes which file names, as users declare it. -/

namespace Templating

/-- File names with one of some endings go to an engine. -/
structure Rule where
  engine : Engine
  suffixes : List String
  deriving DecidableEq, Repr

/-- How a resolver chooses engines. -/
structure Settings where
  /-- The engine for names that no rule claims. -/
  default? : Option Engine
  /-- Asked in order. -/
  rules : List Rule
  /-- Whether the engines' own matchers follow the rules. -/
  standard : Bool
  deriving DecidableEq, Repr

namespace Settings

def empty : Settings := ⟨none, [], false⟩

/-- What is wrong with a rule at a place: one without endings claims no name, and one with an empty
ending claims every name. -/
def ruleFault? (index : Nat) (rule : Rule) : Option SettingsFault :=
  if rule.suffixes.isEmpty then some (.noSuffixes index rule.engine.name)
  else if rule.suffixes.any (· == "") then some (.emptySuffix index rule.engine.name)
  else none

/-- The first rule that is wrong decides. -/
def validate (settings : Settings) : Except SettingsFault Unit :=
  match settings.rules.zipIdx.findSome? fun (rule, index) => ruleFault? index rule with
  | some fault => .error fault
  | none => .ok ()

def ruleMatcher (rule : Rule) : Matcher := Matcher.ofSuffixes rule.suffixes rule.engine.parser

def resolver (settings : Settings) (label : String) : Resolver :=
  let start := match settings.default? with
    | some engine => (Resolver.new label).withDefault engine.parser
    | none => Resolver.new label
  let ruled := start.addMatchers (settings.rules.map ruleMatcher)
  if settings.standard then ruled.withStandard else ruled

end Settings

end Templating
