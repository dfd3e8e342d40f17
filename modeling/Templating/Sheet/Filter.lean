import Templating.Sheet.Value
import Templating.Text.Case
import Templating.Text.Markup
import Templating.Text.Search

/-! The filters and the tests of sheets. The language has more of each than sheets here, where a use of
another name fails. -/

namespace Templating.Sheet

/-- A filter: its result for a value and named arguments, unless it fails. -/
abbrev Filter := Json → List (String × Json) → Option Json

/-- A filter of texts without arguments. -/
def textFilter (f : String → String) : Filter
  | .str text, _ => some (.str (f text))
  | _, _ => none

/-- The number of characters, items or fields. -/
def lengthFilter : Filter
  | .str text, _ => some (.int text.length)
  | .arr items, _ => some (.int items.length)
  | .obj fields, _ => some (.int fields.length)
  | _, _ => none

/-- A separator, in which a backslash before `n` or `t` stands for a line break or a tab. -/
def separatorText (text : String) : String :=
  replaceAll (replaceAll text "\\n" "\n") "\\t" "\t"

/-- The texts of items with a separator between. -/
def joinFilter : Filter
  | .arr items, arguments =>
    match Assoc.get? "sep" arguments with
    | none => some (.str (String.join (displayAll items)))
    | some (.str separator) =>
      some (.str ((separatorText separator).intercalate (displayAll items)))
    | some _ => none
  | _, _ => none

def filter? : String → Option Filter
  | "upper" => some (textFilter Text.upper)
  | "lower" => some (textFilter Text.lower)
  | "escape" => some (textFilter Markup.escapeUpper)
  | "length" => some lengthFilter
  | "join" => some joinFilter
  | _ => none

/-- A test: whether it holds of a value, which may be missing, unless it fails. -/
abbrev Test := Option Json → Option Bool

def valueTest (p : Json → Option Bool) : Test := fun value? => value?.bind p

def odd? (value : Json) : Option Bool :=
  (Quantity.ofJson? value).map fun q => !(q.toDouble.rem (.ofInt 2)).isZero

def test? : String → Option Test
  | "defined" => some fun value? => some value?.isSome
  | "undefined" => some fun value? => some value?.isNone
  | "string" => some (valueTest fun value => some value.str?.isSome)
  | "number" => some (valueTest fun value => some (Quantity.ofJson? value).isSome)
  | "odd" => some (valueTest odd?)
  | "even" => some (valueTest fun value => (odd? value).map (!·))
  | "iterable" => some (valueTest fun
    | .arr _ => some true
    | .obj _ => some true
    | _ => some false)
  | "object" => some (valueTest fun
    | .obj _ => some true
    | _ => some false)
  | _ => none

end Templating.Sheet
