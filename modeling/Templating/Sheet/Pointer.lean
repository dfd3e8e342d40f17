import Templating.Sheet.Value
import Templating.Text.Search

/-! Pointers: the text that says where a value stands, the name of a variable and behind it, each after
a point, the keys that lead into it. A path becomes a pointer when the values of the paths in it are
known; brackets and quotes in those values then count as if they stood in the path. -/

namespace Templating.Sheet

/-- A pointer: the name of a variable and the text after the first point. -/
structure Pointer where
  root : String
  rest? : Option String
  deriving DecidableEq, Repr

/-- How far reading the keys of a pointer has come. -/
structure KeyState where
  /-- Whether a double quote is open, and whether a single one is. -/
  double : Bool
  single : Bool
  /-- Whether a backslash stands before. -/
  escaped : Bool
  /-- Whether no character of the next key has been read. -/
  fresh : Bool
  /-- Whether a quote that ended a key stands before. -/
  closed : Bool

namespace KeyState

/-- The state before the first key. -/
def start : KeyState := ⟨false, false, false, true, false⟩

/-- The state after a character that belongs to a key. -/
def inside (state : KeyState) : KeyState :=
  { state with escaped := false, fresh := false, closed := false }

/-- The state after a quote of a kind. -/
def turned (state : KeyState) (quote : Char) : KeyState :=
  if quote = '"' then { state with double := !state.double }
  else { state with single := !state.single }

/-- Whether a point in this state stands between keys. -/
def divides (state : KeyState) : Bool := !state.double && !state.single && !state.escaped

end KeyState

/-- The keys of a text after the characters of the present key, the latest first. Points divide keys,
but not in quotes and not after a backslash. A quote of either kind begins a key where it comes first
and ends it where it does not. -/
def keysFrom (state : KeyState) (present : List Char) : List Char → List (List Char)
  | [] => if present.isEmpty then [] else [present.reverse]
  | c :: rest =>
    if (c = '"' ∨ c = '\'') ∧ !state.escaped then
      let turned := (state.turned c).inside
      if present.isEmpty then keysFrom turned [] rest
      else present.reverse :: keysFrom { turned with fresh := true, closed := true } [] rest
    else if c = '\\' then
      keysFrom { state.inside with escaped := true } (c :: present) rest
    else if c = '.' ∧ state.closed then keysFrom { state.inside with fresh := true } [] rest
    else if c = '.' ∧ state.divides then
      if state.fresh then keysFrom state.inside [] rest
      else present.reverse :: keysFrom { state.inside with fresh := true } [] rest
    else keysFrom state.inside (c :: present) rest

/-- A key with what stands for a slash and for a tilde in it put back. -/
def unescapeKey (key : String) : String := replaceAll (replaceAll key "~1" "/") "~0" "~"

def keys (text : String) : List String :=
  (keysFrom .start [] text.toList).map (unescapeKey ∘ String.ofList)

def partAt (text : String) (value : Json) : Option Json := follow (keys text) value

/-- A text with brackets as the text of a pointer: a bracket that opens becomes a point, one that
closes goes, and quotes beside them become double ones. -/
def withoutBrackets (text : String) : String :=
  let text := replaceAll text "/" "~1"
  let text := replaceAll (replaceAll text "['" ".\"") "[\"" ".\""
  let text := replaceAll text "[" "."
  let text := replaceAll (replaceAll text "']" "\"") "\"]" "\""
  replaceAll text "]" ""

/-- What a value puts between brackets: a text in double quotes, or a number. -/
def inserted? : Json → Option String
  | .str text => some ("\"" ++ text ++ "\"")
  | .int n => some (toString n)
  | .float x => some (Layout.data.render x)
  | _ => none

/-- A text between brackets. -/
def bracketed (text : String) : String := "[" ++ text ++ "]"

namespace Pointer

def ofText (text : String) : Pointer :=
  let (root, rest) := text.toList.span (· ≠ '.')
  ⟨String.ofList root,
    match rest with
    | [] => none
    | _ :: rest => some (String.ofList rest)⟩

/-- The pointer of a variable and of the texts of the steps into it. -/
def ofSteps (root : String) (steps : List String) : Pointer :=
  ofText (withoutBrackets (root ++ String.join steps))

end Pointer

end Templating.Sheet
