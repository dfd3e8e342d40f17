import Templating.Settings
import Templating.Yaml.Layout

/-! The layout in which settings are written: a block of lines for each of their parts, in any order. -/

namespace Templating.Settings

/-- The blocks of the layout. -/
inductive Block where
  | default
  | rules
  | standard
  deriving DecidableEq, Repr

/-- The entries of a rule. -/
def ruleEntries (rule : Rule) : List String :=
  [Yaml.entryLine "engine" rule.engine.name, Yaml.entryLine "suffixes" (Yaml.inBrackets rule.suffixes)]

/-- The lines of a block, where the rules are items with some entries. The default engine and the rules
are left out where there are none. -/
def blockLines (settings : Settings) (items : List (List String)) : Block → List String
  | .default => settings.default?.toList.map fun engine => Yaml.entryLine "default" engine.name
  | .rules => if items.isEmpty then [] else "matchers:" :: items.flatMap Yaml.itemLines
  | .standard => [Yaml.entryLine "stdlib" (if settings.standard then "true" else "false")]

/-- The lines of blocks in some order. -/
def layoutLines (settings : Settings) (order : List Block) : List String :=
  order.flatMap (settings.blockLines (settings.rules.map ruleEntries))

/-- The text of settings with the blocks in some order. -/
def layout (settings : Settings) (order : List Block) : String :=
  Yaml.ofLines (settings.layoutLines order)

/-- The text of settings with a further line between blocks. -/
def layoutWithLine (settings : Settings) (before after : List Block) (line : String) : String :=
  Yaml.ofLines (settings.layoutLines before ++ line :: settings.layoutLines after)

/-- The text of settings with other entries for the rule between some rules. -/
def layoutWithEntries (settings : Settings) (order : List Block) (earlier later : List Rule)
    (entries : List String) : String :=
  Yaml.ofLines (order.flatMap
    (settings.blockLines (earlier.map ruleEntries ++ entries :: later.map ruleEntries)))

example : layout ⟨some .text, [⟨.html, [".page", ".partial"]⟩], true⟩ [.default, .rules, .standard] =
    "default: text\nmatchers:\n  - engine: html\n    suffixes: [\".page\", \".partial\"]\n" ++
      "stdlib: true\n" := by
  decide

end Templating.Settings
