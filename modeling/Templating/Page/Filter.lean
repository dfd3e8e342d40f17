import Templating.Fault
import Templating.Page.Arithmetic
import Templating.Text.Blank
import Templating.Text.Case
import Templating.Text.Search

/-! The filters and tests of pages, and the functions that every page can call. The language has more of
each than pages here, where the other names are unknown. Arguments are bound one by one: one too many and
one too few are faults of their own. -/

namespace Templating.Page

/-- What went wrong in an operation, before its line is known. -/
structure Trouble where
  kind : PageFault.Kind
  function? : Option FunctionFault := none
  deriving DecidableEq, Repr

namespace Trouble

def invalid : Trouble := ⟨.invalidOperation, none⟩

def undefined : Trouble := ⟨.undefinedValue, none⟩

def tooMany : Trouble := ⟨.tooManyArguments, none⟩

def tooFew : Trouble := ⟨.missingArgument, none⟩

end Trouble

/-- The value of an operation, or what went wrong. -/
abbrev Outcome (α : Type) := Except Trouble α

namespace Value

def orInvalid (result : Option α) : Outcome α :=
  match result with
  | some value => .ok value
  | none => .error .invalid

def isKeywords : Value → Bool
  | map keywords _ => keywords
  | _ => false

/-- An argument that has to be a text; other values give the text that they print. -/
def toText (value : Value) : Outcome String :=
  if value.isUndefined then .error .undefined
  else if value.isKeywords then .error .invalid
  else .ok value.display

/-- An argument that has to be a text and may be missing. -/
def toText? (value : Value) : Outcome (Option String) :=
  match value with
  | undefined _ => .ok none
  | nothing => .ok none
  | value => value.toText.map some

/-- An argument that has to be a boolean and may be missing. -/
def toBool? (value : Value) : Outcome (Option Bool) :=
  match value with
  | undefined _ => .ok none
  | nothing => .ok none
  | bool value => .ok (some value)
  | _ => .error .invalid

def toInt64 (value : Value) : Outcome Int :=
  if value.isUndefined then .error .undefined else orInvalid value.toInt64?

/-- An argument that has to be an integer of 64 bits and may be missing. -/
def toOptionalInt64 (value : Value) : Outcome (Option Int) :=
  match value with
  | undefined _ => .ok none
  | nothing => .ok none
  | value => value.toInt64.map some

/-- Whether a value counts as true; a missing one has no truth. -/
def truth (value : Value) : Outcome Bool :=
  if value.isMissing then .error .undefined else .ok value.isTrue

/-- The items of a value that is gone through; a missing value has none to give. -/
def toItems (value : Value) : Outcome (List Value) :=
  if value.isMissing then .error .undefined else orInvalid value.items?

/-- No argument is left. -/
def noArguments : List Value → Outcome Unit
  | [] => .ok ()
  | _ :: _ => .error .tooMany

/-- At most one argument is given. -/
def oneArgument? : List Value → Outcome Value
  | [] => .ok missing
  | [value] => .ok value
  | _ => .error .tooMany

end Value

open Value

/-- The characters of ASCII that are neither letters, digits nor controls. -/
def isPunctuation (c : Char) : Bool :=
  let n := c.toNat
  (33 ≤ n && n ≤ 47) || (58 ≤ n && n ≤ 64) || (91 ≤ n && n ≤ 96) || (123 ≤ n && n ≤ 126)

/-- A text with the first letter of each word in upper case and the others in lower case. -/
def titleFrom : (start : Bool) → List Char → List Char
  | _, [] => []
  | start, c :: rest =>
    if isPunctuation c || isBlank c then c :: titleFrom true rest
    else if start then Text.upperChar c ++ titleFrom false rest
    else Text.lowerChar c ++ titleFrom false rest

/-- A text with its first character in upper case and the others in lower case. -/
def capitalize (text : String) : String :=
  match text.toList with
  | [] => ""
  | c :: rest => String.ofList (Text.upperChar c) ++ Text.lower (String.ofList rest)

def isSafe : Value → Bool
  | .str _ safe => safe
  | _ => false

/-- Texts one after another with a separator between any two. -/
def joinTexts (separator : String) : List String → String
  | [] => ""
  | text :: rest => rest.foldl (fun acc text => acc ++ separator ++ text) text

/-- The texts of values one after another. Where values are escaped and one of them or the separator
is safe, the result is safe and the others are escaped. -/
def joinValues (escapes : Bool) (separator : Value) (items : List Value) : Value :=
  if escapes && (isSafe separator || items.any isSafe) then
    .str (joinTexts separator.markup (items.map Value.markup)) true
  else .text (joinTexts separator.display (items.map Value.display))

def asciiLower (text : String) : String := String.ofList (text.toList.map Char.toLower)

def orderFor (caseSensitive : Bool) (x y : Value) : Ordering :=
  if caseSensitive then x.order y
  else
    match x.str?, y.str? with
    | some x, some y => compareText (asciiLower x) (asciiLower y)
    | _, _ => x.order y

/-- The value at a path of names and places, unless the path goes on after a value that is
undefined. -/
def atPath? (path : List String) (value : Value) : Option Value :=
  path.foldlM
    (fun value name =>
      if value.isUndefined then none
      else
        let found := match name.toNat? with
          | some n => if name.all Char.isDigit then value.item? (.count n) else value.field? name
          | none => value.field? name
        some (found.getD .missing))
    value

/-- The paths of an attribute: names with dots between them, and commas between the paths. -/
def attributePaths (paths : String) : List (List String) :=
  (paths.splitOn ",").map fun path =>
    (String.ofList (trimOf isBlank path.toList)).splitOn "."

/-- The order of values by what stands at paths, of which earlier ones count more. A path that one of
the values does not have makes no difference. -/
def orderByPaths (caseSensitive : Bool) (paths : List (List String)) (x y : Value) : Ordering :=
  paths.foldl
    (fun order path =>
      order.then
        (match atPath? path x, atPath? path y with
          | some x, some y => orderFor caseSensitive x y
          | _, _ => .eq))
    .eq

def keyword? (name : String) (keywords : List (Value × Value)) : Value :=
  (valueAt? (.text name) keywords).getD .missing

/-- The keyword arguments at the end of arguments, which have to be the only ones and to have one of
some names. -/
def keywordsOnly (names : List String) (arguments : List Value) :
    Outcome (List (Value × Value)) :=
  match arguments with
  | [] => .ok []
  | [.map true entries] =>
    if entries.all fun (key, _) => (key.str?.map (names.contains ·)).getD false then .ok entries
    else .error .tooMany
  | _ => .error .tooMany

/-- Puts an item into place from the end of items in order, which are reversed: before all at the end
that come after it. -/
def insertFromEnd (less : α → α → Bool) (item : α) : List α → List α
  | [] => [item]
  | last :: before =>
    if less item last then last :: insertFromEnd less item before else item :: last :: before

/-- Items in order. What is not less counts as equal and keeps its place, so that a few items can be
sorted by an order with gaps. -/
def sortBy (order : α → α → Ordering) (items : List α) : List α :=
  let less (x y : α) : Bool := order x y == .lt
  if items.length ≤ 20 then
    (items.foldl (fun sorted item => insertFromEnd less item sorted) []).reverse
  else items.mergeSort fun x y => !less y x

def sortItems (value : Value) (arguments : List Value) : Outcome Value := do
  let items ← match value.toItems with
    | .ok items => pure items
    | .error _ => throw .invalid
  let keywords ← keywordsOnly ["attribute", "case_sensitive", "reverse"] arguments
  let caseSensitive := (← (keyword? "case_sensitive" keywords).toBool?).getD false
  let paths? ← (keyword? "attribute" keywords).toText?
  let backward := (← (keyword? "reverse" keywords).toBool?).getD false
  let order (x y : Value) : Ordering := match paths? with
    | some paths => orderByPaths caseSensitive (attributePaths paths) x y
    | none => orderFor caseSensitive x y
  pure (.seq (sortBy (fun x y => if backward then order y x else order x y) items))

def choices (value : Value) : Outcome (List Value) :=
  match value.toItems with
  | .ok items => .ok items
  | .error _ => .error .invalid

/-- The least item, the first of equal ones. -/
def least (items : List Value) : Value :=
  match items with
  | [] => .missing
  | item :: rest => rest.foldl (fun best x => if x.order best == .lt then x else best) item

/-- The greatest item, the last of equal ones. -/
def greatest (items : List Value) : Value :=
  match items with
  | [] => .missing
  | item :: rest => rest.foldl (fun best x => if x.order best == .lt then best else x) item

/-- The sum of numbers; undefined items count for nothing. -/
def total (items : List Value) : Outcome Value :=
  items.foldlM
    (fun acc item =>
      if item.isUndefined then .ok acc
      else if item.kindRank == 3 then orInvalid (acc.add? item)
      else .error .invalid)
    (.count 0)

def reversed : Value → Outcome Value
  | .undefined silent => .ok (.undefined silent)
  | .nothing => .ok .nothing
  | .str text _ => .ok (.text (String.ofList text.toList.reverse))
  | value => (orInvalid value.items?).map fun items => .list true items.reverse

/-- The first item. -/
def first : Value → Outcome Value
  | .str text _ =>
    .ok ((text.toList.head?.map fun c => Value.text c.toString).getD .missing)
  | .undefined _ => .error .invalid
  | .nothing => .error .invalid
  | value => (orInvalid value.items?).map (·.headD .missing)

/-- The last item. -/
def last : Value → Outcome Value
  | .str text _ =>
    .ok ((text.toList.getLast?.map fun c => Value.text c.toString).getD .missing)
  | .list _ items => .ok (items.getLast?.getD .missing)
  | _ => .error .invalid

/-- A number without its sign. -/
def absolute : Value → Outcome Value
  | .int n _ => orInvalid (ofResult? n.natAbs)
  | .float x => .ok (.float x.abs)
  | _ => .error .invalid

/-- A filter that takes a text and no arguments. -/
def onText (f : String → String) (value : Value) (arguments : List Value) : Outcome Value := do
  let text ← value.toText
  noArguments arguments
  pure (.text (f text))

/-- A filter that takes a text and no arguments, and of a safe text makes a safe one. -/
def onSafeText (f : String → String) (value : Value) (arguments : List Value) : Outcome Value := do
  let text ← value.toText
  noArguments arguments
  pure (.str (f text) (isSafe value))

/-- A filter that takes a value and no arguments. -/
def onValue (f : Value → Outcome Value) (value : Value) (arguments : List Value) :
    Outcome Value := do
  noArguments arguments
  f value

/-- A filter: what it makes of a value and arguments. -/
abbrev Filter := Value → List Value → Outcome Value

def joinFilter (escapes : Bool) : Filter := fun value arguments => do
  let separator ← oneArgument? arguments
  let text ← separator.toText?
  match value with
  | .undefined _ => pure (.text "")
  | .nothing => pure (.text "")
  | value => do
    let items ← orInvalid value.items?
    pure (joinValues escapes (if text.isSome then separator else .text "") items)

/-- Gives a value in place of an undefined one, or, if asked, of one that is not true. -/
def defaultFilter : Filter := fun value arguments => do
  if 2 < arguments.length then throw .tooMany
  let lacks ← if value.isUndefined then pure true
    else match arguments[1]? with
      | some lax => do pure ((← lax.truth) && !value.isTrue)
      | none => pure false
  if lacks then
    match arguments[0]? with
    | none => pure (.text "")
    | some (Value.undefined _) => pure (.text "")
    | some other => pure other
  else pure value

/-- Cuts characters off both ends: white space, or the characters of a text. -/
def trimFilter : Filter := fun value arguments => do
  let text ← value.toText
  let characters ← (← oneArgument? arguments).toText?
  let inClass : Char → Bool := match characters with
    | some characters => fun c => characters.toList.contains c
    | none => isBlank
  pure (.str (String.ofList (trimOf inClass text.toList)) (isSafe value))

/-- Replaces a part of a text. Where values are escaped and one of the three texts is safe, the result
is safe and the others are escaped. -/
def replaceFilter (escapes : Bool) : Filter := fun value arguments => do
  let text ← value.toText
  match arguments with
  | [part, new] => do
    let partText ← part.toText
    let newText ← new.toText
    if escapes && (isSafe value || isSafe part || isSafe new) then
      pure (.str (replaceAll value.markup part.markup new.markup) true)
    else pure (.str (replaceAll text partText newText) (isSafe value))
  | [part] => do
    let _ ← part.toText
    throw .tooFew
  | [] => throw .tooFew
  | _ => throw .tooMany

/-- Escapes a value that is not safe. -/
def escaped : Value → Value
  | .str text true => .str text true
  | value => .str value.markup true

def pairs : Value → Outcome Value
  | .map _ entries => .ok (.list true (entries.map fun (key, value) => .seq [key, value]))
  | _ => .error .invalid

def safeFilter : Filter := fun value arguments => do
  let text ← value.toText
  noArguments arguments
  pure (.str text true)

/-- The filter of a name, on pages that escape what they print or do not. -/
def filter? (escapes : Bool) (name : String) : Option Filter :=
  match name with
  | "upper" => some (onSafeText Text.upper)
  | "lower" => some (onSafeText Text.lower)
  | "title" => some (onText fun text => String.ofList (titleFrom true text.toList))
  | "capitalize" => some (onSafeText capitalize)
  | "trim" => some trimFilter
  | "replace" => some (replaceFilter escapes)
  | "length" => some (onValue fun value => orInvalid (value.length?.map .count))
  | "count" => some (onValue fun value => orInvalid (value.length?.map .count))
  | "join" => some (joinFilter escapes)
  | "first" => some (onValue first)
  | "last" => some (onValue last)
  | "sort" => some sortItems
  | "reverse" => some (onValue reversed)
  | "abs" => some (onValue absolute)
  | "sum" => some (onValue fun value => value.toItems.bind total)
  | "min" => some (onValue fun value => (choices value).map least)
  | "max" => some (onValue fun value => (choices value).map greatest)
  | "default" => some defaultFilter
  | "d" => some defaultFilter
  | "items" => some (onValue pairs)
  | "safe" => some safeFilter
  | "escape" => some (onValue fun value => .ok (escaped value))
  | "e" => some (onValue fun value => .ok (escaped value))
  | _ => none

/-- Whether a value is an integer with a remainder by two. -/
def hasParity (odd : Bool) (value : Value) : Bool :=
  match value.toInt? with
  | some n => (n % 2 != 0) == odd
  | none => false

def test? (name : String) : Option (Value → Bool) :=
  match name with
  | "defined" => some fun value => !value.isUndefined
  | "undefined" => some Value.isUndefined
  | "none" => some Value.isNothing
  | "string" => some fun value => value.str?.isSome
  | "number" => some fun value => value.kindRank == 3
  | "sequence" => some fun value => value.kindRank == 6
  | "mapping" => some fun value => value.kindRank == 7
  | "odd" => some (hasParity true)
  | "even" => some (hasParity false)
  | _ => none

def longestRange : Nat := 100000

/-- How many numbers lie from `first` to before `stop` in steps of `step`, up or down. -/
def rangeLength (first stop step : Int) : Nat :=
  if 0 < step then ((stop - first + step - 1) / step).toNat
  else ((first - stop - step - 1) / (-step)).toNat

/-- The numbers from `first` to before `stop`, in steps of `step`. -/
def rangeItems (first stop step : Int) : List Value :=
  (List.range (rangeLength first stop step)).map fun (i : Nat) => .int (first + i * step) true

def range (arguments : List Value) : Outcome Value := do
  let (lower, upper, step) ← match arguments with
    | [] => throw .tooFew
    | [lower] => pure (← lower.toInt64, none, none)
    | [lower, upper] => pure (← lower.toInt64, ← upper.toOptionalInt64, none)
    | [lower, upper, step] =>
      pure (← lower.toInt64, ← upper.toOptionalInt64, ← step.toOptionalInt64)
    | _ => throw .tooMany
  let step := step.getD 1
  let (first, stop) := match upper with
    | some upper => (lower, upper)
    | none => (0, lower)
  if step = 0 ∨ longestRange < rangeLength first stop step then throw .invalid
  else pure (.list true (rangeItems first stop step))

def builtin? (name : String) : Option (List Value → Outcome Value) :=
  match name with
  | "range" => some range
  | _ => none

end Templating.Page
