import Templating.Engine
import Templating.Registry.Edit

/-! Calls that set a resolver up, one after another, and the single steps that they stand for. -/

namespace Templating.Resolver

/-- The parts of a resolver that calls set up. -/
inductive Part where
  | functions
  | matchers
  | default
  | reader
  deriving DecidableEq, Repr

/-- A call that sets a part of a resolver up. -/
inductive Call where
  | function (name : String) (f : Function)
  /-- Adds the functions of registries, of which later ones win. -/
  | functions (registries : List Registry)
  | matcher (matcher : Matcher)
  | matchers (matchers : List Matcher)
  /-- Adds the matchers of the engines. -/
  | standard
  | default (parser : Parser)
  /-- Loads sources with a reader, or from the file tree. -/
  | reader (reader? : Option Reader)

/-- A single function, matcher, default parser or reader. -/
inductive Step where
  | function (binding : Binding)
  | matcher (matcher : Matcher)
  | default (parser : Parser)
  | reader (reader? : Option Reader)

namespace Call

def part : Call → Part
  | function _ _ => .functions
  | functions _ => .functions
  | matcher _ => .matchers
  | matchers _ => .matchers
  | standard => .matchers
  | default _ => .default
  | reader _ => .reader

/-- The single steps of a call, in their order. -/
def steps : Call → List Step
  | function name f => [.function (name, f)]
  | functions registries =>
    registries.flatMap fun registry => registry.entries.map Step.function
  | matcher given => [.matcher given]
  | matchers given => given.map Step.matcher
  | standard => Engine.standardMatchers.map Step.matcher
  | default parser => [.default parser]
  | reader reader? => [.reader reader?]

end Call

namespace Step

def function? : Step → Option Binding
  | function binding => some binding
  | _ => none

def matcher? : Step → Option Matcher
  | matcher given => some given
  | _ => none

def default? : Step → Option Parser
  | default parser => some parser
  | _ => none

def reader? : Step → Option (Option Reader)
  | reader reader? => some reader?
  | _ => none

end Step

/-- What the single steps of one kind among those of calls set up, in their order. -/
def Call.ofKind (kind : Step → Option α) (calls : List Call) : List α :=
  (calls.flatMap steps).filterMap kind

/-- The resolver after a call. -/
def call (resolver : Resolver) : Call → Resolver
  | .function name f => resolver.addFunction name f
  | .functions registries => resolver.addFunctions registries
  | .matcher given => resolver.addMatcher given
  | .matchers given => resolver.addMatchers given
  | .standard => resolver.withStandard
  | .default parser => resolver.withDefault parser
  | .reader (some reader) => resolver.withReader reader
  | .reader none => resolver.withFiles

/-- The resolver after a single step. -/
def step (resolver : Resolver) : Step → Resolver
  | .function (name, f) => resolver.addFunction name f
  | .matcher given => resolver.addMatcher given
  | .default parser => resolver.withDefault parser
  | .reader reader? => { resolver with reader? }

/-- The resolver with a label that calls set up. -/
def build (label : String) (calls : List Call) : Resolver := calls.foldl call (new label)

end Templating.Resolver
