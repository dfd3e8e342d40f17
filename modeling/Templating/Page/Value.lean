import Templating.Json.Text
import Templating.Text.Markup
import Templating.Text.Quoted

/-! Values of pages: their kinds, their text on a page, their truth, and the way to and from JSON. -/

namespace Templating.Page

/-- What a loop tells about itself. -/
structure LoopInfo where
  /-- How many items came before. -/
  before : Nat
  length : Nat
  /-- How many loops enclose the loop. -/
  depth : Nat
  deriving DecidableEq, Repr

/-- A value of a page. -/
inductive Value where
  /-- The value of a missing variable or field; a silent one prints as nothing. -/
  | undefined (silent : Bool)
  | nothing
  | bool (value : Bool)
  /-- An integer; a signed one is a result of arithmetic or below zero. -/
  | int (value : Int) (signed : Bool)
  | float (value : Binary64)
  /-- A text; a safe one is not escaped again. -/
  | str (text : String) (safe : Bool)
  /-- A sequence; a lazy one is the result of an operation on sequences. -/
  | list (lazy : Bool) (items : List Value)
  /-- A map with its keys in increasing order; one of keyword arguments is marked. -/
  | map (keywords : Bool) (entries : List (Value × Value))
  /-- A function of the registry or of the language. -/
  | function (name : String)
  /-- The function that marks the context's signal. -/
  | abort
  /-- A macro of the page, by its number. -/
  | template (id : Nat) (name : String) (parameters : List String)
  /-- The state of a loop, and the items before and after the present one. -/
  | loop (info : LoopInfo) (previous next : Value)
  deriving Inhabited

namespace Value

/-- A text that is not safe. -/
def text (text : String) : Value := .str text false

def seq (items : List Value) : Value := .list false items

def count (n : Nat) : Value := .int n false

/-- The undefined value that may not be printed. -/
def missing : Value := .undefined false

def isUndefined : Value → Bool
  | undefined _ => true
  | _ => false

/-- Undefined, and not silent. -/
def isMissing : Value → Bool
  | undefined silent => !silent
  | _ => false

def isNothing : Value → Bool
  | nothing => true
  | _ => false

def str? : Value → Option String
  | str text _ => some text
  | _ => none

/-- The kinds of values, as numbers in the order in which they sort. -/
def kindRank : Value → Nat
  | undefined _ => 0
  | nothing => 1
  | bool _ => 2
  | int _ _ => 3
  | float _ => 3
  | str _ _ => 4
  | list false _ => 6
  | map _ _ => 7
  | list true _ => 8
  | loop _ _ _ => 7
  | function _ => 9
  | abort => 9
  | template _ _ _ => 7

def loopFields : List String :=
  ["index0", "index", "length", "revindex", "revindex0", "first", "last", "depth", "depth0",
    "previtem", "nextitem"]

def loopField? (info : LoopInfo) (previous next : Value) (name : String) : Option Value :=
  match name with
  | "index0" => some (count info.before)
  | "index" => some (count (info.before + 1))
  | "length" => some (count info.length)
  | "revindex" => some (count (info.length - info.before))
  | "revindex0" => some (count (info.length - info.before - 1))
  | "first" => some (.bool (info.before == 0))
  | "last" => some (.bool (info.before + 1 == info.length))
  | "depth" => some (count (info.depth + 1))
  | "depth0" => some (count info.depth)
  | "previtem" => some previous
  | "nextitem" => some next
  | _ => none

def templateFields : List String := ["name", "arguments", "caller"]

/-- What a macro tells under a name: no macro takes the block that calls it. -/
def templateField? (name : String) (parameters : List String) (field : String) : Option Value :=
  match field with
  | "name" => some (text name)
  | "arguments" => some (seq (parameters.map text))
  | "caller" => some (bool false)
  | _ => none

def boolText (value : Bool) : String := if value then "True" else "False"

mutual

/-- The text of a value inside a list or a map: strings are quoted. -/
def nestedText : Value → String
  | undefined _ => "undefined"
  | nothing => "None"
  | bool value => boolText value
  | int value _ => toString value
  | float value => Layout.nested.render value
  | str text _ => Text.quoted text
  | list _ items => "[" ++ Text.commaSeparated (itemTexts items) ++ "]"
  | map _ entries => "\x7b" ++ Text.commaSeparated (entryTexts entries) ++ "\x7d"
  | function name => name
  | abort => "abort"
  | template _ name _ => "<macro " ++ name ++ ">"
  | loop info _ _ => "<loop " ++ toString info.before ++ "/" ++ toString info.length ++ ">"
termination_by structural value => value

def itemTexts : List Value → List String
  | [] => []
  | item :: rest => nestedText item :: itemTexts rest
termination_by structural items => items

def entryTexts : List (Value × Value) → List String
  | [] => []
  | (key, value) :: rest => (nestedText key ++ ": " ++ nestedText value) :: entryTexts rest
termination_by structural entries => entries

end

def display : Value → String
  | undefined _ => ""
  | float value => Layout.page.render value
  | str text _ => text
  | value => nestedText value

/-- The text of a value on a page of markup: safe texts, numbers and the like stand as they are,
other texts and collections are escaped. -/
def markup : Value → String
  | undefined _ => ""
  | nothing => "None"
  | bool value => boolText value
  | int value _ => toString value
  | float value => Layout.page.render value
  | str text true => text
  | value => Markup.escape value.display

def isTrue : Value → Bool
  | undefined _ => false
  | nothing => false
  | bool value => value
  | int value _ => value != 0
  | float value => !value.isZero
  | str text _ => text != ""
  | list _ items => !items.isEmpty
  | map _ entries => !entries.isEmpty
  | _ => true

mutual

def ofJson : Json → Value
  | .null => nothing
  | .bool value => bool value
  | .int value => int value (value < 0)
  | .float value => float value
  | .str text => str text false
  | .arr items => list false (ofItems items)
  | .obj fields => map false (ofFields fields)
termination_by structural value => value

def ofItems : List Json → List Value
  | [] => []
  | item :: rest => ofJson item :: ofItems rest
termination_by structural items => items

def ofFields : List (String × Json) → List (Value × Value)
  | [] => []
  | (name, value) :: rest => (str name false, ofJson value) :: ofFields rest
termination_by structural fields => fields

end

/-- The name of a field for a key, if a field can have it. -/
def fieldName? : Value → Option String
  | str text _ => some text
  | bool value => some (Json.boolText value)
  | int value _ => some (toString value)
  | float value => if value.isFinite then some (Layout.data.render value) else none
  | _ => none

mutual

/-- The JSON form of a value. Integers beyond the range of JSON and keys that are no names have
none. -/
def toJson? : Value → Option Json
  | undefined _ => some .null
  | nothing => some .null
  | bool value => some (.bool value)
  | int value _ =>
    if Json.leastInt ≤ value ∧ value ≤ Json.greatestInt then some (.int value) else none
  | float value => some (if value.isFinite then .float value else .null)
  | str text _ => some (.str text)
  | list _ items => (toItems? items).map .arr
  | map _ entries => (toFields? entries).map .ofFields
  | function name => some (.str name)
  | abort => some (.str "abort")
  | template _ name parameters =>
    some (.ofFields
      [("name", .str name), ("arguments", .arr (parameters.map .str)), ("caller", .bool false)])
  | loop info previous next => do
    let previous ← toJson? previous
    let next ← toJson? next
    some (.ofFields
      [("index0", .int info.before), ("index", .int (info.before + 1)),
        ("length", .int info.length), ("revindex", .int (info.length - info.before)),
        ("revindex0", .int (info.length - info.before - 1)), ("first", .bool (info.before == 0)),
        ("last", .bool (info.before + 1 == info.length)), ("depth", .int (info.depth + 1)),
        ("depth0", .int info.depth), ("previtem", previous), ("nextitem", next)])
termination_by structural value => value

def toItems? : List Value → Option (List Json)
  | [] => some []
  | item :: rest => do
    let item ← toJson? item
    let rest ← toItems? rest
    some (item :: rest)
termination_by structural items => items

def toFields? : List (Value × Value) → Option (List (String × Json))
  | [] => some []
  | (key, value) :: rest => do
    let name ← fieldName? key
    let value ← toJson? value
    let rest ← toFields? rest
    some ((name, value) :: rest)
termination_by structural entries => entries

end

end Value

end Templating.Page
