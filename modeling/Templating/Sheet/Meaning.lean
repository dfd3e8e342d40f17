import Templating.Registry
import Templating.Sheet.Filter
import Templating.Sheet.Scope
import Templating.Template
import Templating.Text.Search

/-! The meaning of expressions. An expression has three: its value, its truth as a condition, and its
number in arithmetic. Each is a computation, so what is not asked for is not run. A failure keeps the
steps before it. -/

namespace Templating.Sheet

/-- Why a sheet stops: the function of the registry that failed, if one did. -/
structure Failure where
  function? : Option FunctionFault
  deriving DecidableEq, Repr

/-- The state of a render: what is in sight, and the steps taken so far, the latest first. -/
structure State where
  scope : Scope
  steps : List Event

abbrev Rendering := ExceptT Failure (StateM State)

/-- What a render of a sheet cannot change: the functions, and whether `abort` marks a signal. -/
structure Setting where
  functions : Registry
  hasSignal : Bool

namespace Rendering

/-- Stops without a function to blame. -/
def fail : Rendering α := throw ⟨none⟩

/-- What there is, or a failure. -/
def need : Option α → Rendering α
  | some value => pure value
  | none => fail

def step (event : Event) : Rendering Unit :=
  modify fun state => { state with steps := event :: state.steps }

def write (text : String) : Rendering Unit := step (.write (Utf8.encode text))

def lookup? (path : Path) : Rendering (Option Json) := do return (← get).scope.value? path

def orElse (part : Rendering α) (value : α) : Rendering α := tryCatch part fun _ => pure value

/-- A failure in arithmetic names no function. -/
def withoutFunction (part : Rendering α) : Rendering α := tryCatch part fun _ => fail

def evaluate : List (String × Rendering Json) → Rendering (List (String × Json))
  | [] => pure []
  | (name, part) :: rest => do
    let value ← part
    return (name, value) :: (← evaluate rest)

def evaluateAll : List (Rendering Json) → Rendering (List Json)
  | [] => pure []
  | part :: rest => do
    let value ← part
    return value :: (← evaluateAll rest)

/-- Joins the texts that computations give, in order. -/
def joinTexts : List (Rendering String) → Rendering String
  | [] => pure ""
  | part :: rest => do
    let text ← part
    return text ++ (← joinTexts rest)

end Rendering

open Rendering

def reasonOf (arguments : List (String × Json)) : String :=
  ((Assoc.get? "reason" arguments).bind Json.str?).getD Signal.defaultReason

/-- Calls a function with named arguments, which are run only where there is such a function. -/
def callFunction (setting : Setting) (name : String) (arguments : List (String × Rendering Json)) :
    Rendering Json := do
  if setting.hasSignal && name == "abort" then
    step (.abort (reasonOf (← evaluate arguments)))
    return .str ""
  else
    let f ← need (setting.functions.get? name)
    let arguments := [.obj (← evaluate arguments)]
    step (.call name arguments)
    match f arguments with
    | .ok value => return value
    | .error message => throw ⟨some ⟨name, message⟩⟩

/-- The filters that a value goes through without a change: the first has no effect here, and the
second only on what is missing. -/
def passes (name : String) : Bool := name == "safe" || name == "default"

def applyFilters : List (String × List (String × Rendering Json)) → Json → Rendering Json
  | [], value => pure value
  | (name, arguments) :: rest, value => do
    if passes name then applyFilters rest value
    else
      let filter ← need (filter? name)
      let arguments ← evaluate arguments
      applyFilters rest (← need (filter value arguments))

/-- The value for a missing variable: what a `default` gives that comes first of the filters. -/
def defaultValue : List (String × List (String × Rendering Json)) → Rendering Json
  | ("default", arguments) :: _ =>
    match arguments.lookup "value" with
    | some part => part
    | none => fail
  | _ => fail

/-- Whether a default comes first of the filters. -/
def hasDefault : List (String × List (String × Rendering Json)) → Bool
  | (name, _) :: _ => name == "default"
  | [] => false

/-- The three meanings of an expression. -/
structure Meaning where
  value : Rendering Json
  truth : Rendering Bool
  /-- The number; `none` stands for what is no number. -/
  number : Rendering (Option Quantity)

namespace Meaning

/-- The meaning of a value that is at hand without a number of its own. -/
def ofTruth (negated : Bool) (value : Rendering Json) (truth : Rendering Bool) : Meaning where
  value := value
  truth := (· != negated) <$> truth
  number := fail

/-- The meaning of a condition, whose truth has the negation in it already. -/
def ofCondition (truth : Rendering Bool) : Meaning := ⟨.bool <$> truth, truth, fail⟩

def ofQuantity (negated : Bool) (q : Quantity) : Meaning where
  value := pure q.toJson
  truth := pure (q.isZero == negated)
  number := pure (some q)

def numberOf (value : Rendering Json) : Rendering (Option Quantity) := do
  return some (← need (Quantity.ofJson? (← value)))

/-- The meaning of a call, which as a condition has to give a truth value. -/
def ofCall (negated : Bool) (value : Rendering Json) : Meaning where
  value := value
  truth := do
    match ← value with
    | .bool b => return b != negated
    | _ => fail
  number := numberOf value

/-- The meaning of arithmetic. A value that is no number is written as a text. -/
def ofMath (negated : Bool) (op : MathOp) (left right : Meaning) : Meaning :=
  let number : Rendering (Option Quantity) := do
    match ← left.number, ← right.number with
    | some x, some y => need (Quantity.apply op x y)
    | _, _ => return none
  { value := do
      match ← withoutFunction number with
      | some q => return q.toJson
      | none => return .str "NaN"
    truth := do
      match ← number with
      | some q => return q.isZero == negated
      | none => return negated
    number }

def compareNumbers (allowed : List Ordering) (left right : Meaning) : Rendering Bool := do
  match ← left.number, ← right.number with
  | some x, some y => return x.compares allowed y
  | _, _ => fail

/-- The truth of equality, or of its opposite; where one value alone is a number both are false, also
after a `not`. -/
def equality (negated opposite : Bool) (left right : Meaning) : Rendering Bool := do
  let x ← left.value
  let y ← right.value
  return match equal? x y with
    | some equal => (equal != opposite) != negated
    | none => false

/-- The truth of a comparison, with the negation. -/
def comparison (negated : Bool) (op : Comparison) (left right : Meaning) : Rendering Bool :=
  match op with
  | .eq => equality negated false left right
  | .ne => equality negated true left right
  | .lt => (· != negated) <$> compareNumbers [.lt] left right
  | .le => (· != negated) <$> compareNumbers [.lt, .eq] left right
  | .gt => (· != negated) <$> compareNumbers [.gt] left right
  | .ge => (· != negated) <$> compareNumbers [.gt, .eq] left right

/-- The truth of two conditions; the second is run only where the first does not decide. -/
def connection (op : Connective) (left right : Meaning) : Rendering Bool := do
  match op with
  | .and => if ← left.truth then right.truth else return false
  | .or => if ← left.truth then return true else right.truth

/-- Whether a container has an item, a part or a key. -/
def contains? (container item : Json) : Option Bool :=
  match container, item with
  | .arr items, item => some (items.any (same · item))
  | .str text, .str part => some (occursIn part.toList text.toList)
  | .obj fields, .str key => some (Assoc.get? key fields).isSome
  | _, _ => none

/-- The text of a part of a joined text: texts as they are, and numbers as data has them. -/
def partText (value : Json) : Rendering String :=
  match value with
  | .str text => pure text
  | .int n => pure (toString n)
  | .float x => pure (Layout.data.render x)
  | _ => fail

def testTruth (subject : Path) (name : String) (arguments : List (Rendering Json)) :
    Rendering Bool := do
  let test ← need (test? name)
  let arguments ← evaluateAll arguments
  if arguments.isEmpty then need (test (← lookup? subject)) else fail

/-- Filters and a negation after a value. -/
def finish (negated : Bool) (filters : List (String × List (String × Rendering Json)))
    (value : Json) : Rendering Json := do
  let value ← applyFilters filters value
  return if negated then .bool !isTrue value else value

/-- The value of a variable with its filters. A missing variable and null count as the default where
the filters start with one. After a `not`, null is true at once, and so is a missing variable without
a default. -/
def variableValue (negated : Bool) (filters : List (String × List (String × Rendering Json)))
    (path : Path) : Rendering Json := do
  match ← lookup? path with
  | some .null =>
    if negated then return .bool true
    else finish negated filters (← if hasDefault filters then defaultValue filters else pure .null)
  | some value => finish negated filters value
  | none =>
    if hasDefault filters then finish negated filters (← defaultValue filters)
    else if negated then return .bool true
    else fail

/-- The number of an expression: that of its term, or of its value where there are filters. -/
def filteredNumber (filters : List (String × List (String × Rendering Json)))
    (value : Rendering Json) (number : Rendering (Option Quantity)) :
    Rendering (Option Quantity) :=
  if filters.isEmpty then number else numberOf value

/-- The meaning of a variable with its filters. As a condition a failure counts as false. -/
def ofVariable (negated : Bool) (filters : List (String × List (String × Rendering Json)))
    (path : Path) : Meaning :=
  let value := variableValue negated filters path
  { value
    truth := isTrue <$> orElse value (.bool false)
    number := filteredNumber filters value (numberOf do need (← lookup? path)) }

def ofConcat (negated : Bool) (filters : List (String × List (String × Rendering Json)))
    (parts : List (Rendering String)) : Meaning :=
  let value := do finish negated filters (.str (← joinTexts parts))
  ⟨value, isTrue <$> value, filteredNumber filters value fail⟩

/-- The meaning of any other term with filters, which do not touch its truth. -/
def filteredBy (negated : Bool) (filters : List (String × List (String × Rendering Json)))
    (meaning : Meaning) : Meaning :=
  let value := do finish negated filters (← meaning.value)
  ⟨value, meaning.truth, filteredNumber filters value meaning.number⟩

end Meaning

mutual

def Expr.meaning (setting : Setting) : Expr → Meaning
  | .mk negated (.var path) filters => .ofVariable negated (filterMeanings setting filters) path
  | .mk negated (.concat parts) filters =>
    .ofConcat negated (filterMeanings setting filters) (partMeanings setting parts)
  | .mk negated term filters =>
    .filteredBy negated (filterMeanings setting filters) (term.meaning setting negated)
termination_by structural e => e

/-- The meaning of a term; a condition has the negation of the whole expression in its truth. -/
def Term.meaning (setting : Setting) (negated : Bool) : Term → Meaning
  | .text text => .ofTruth negated (pure (.str text)) (pure (text != ""))
  | .int n => .ofQuantity negated (.int n)
  | .float x => .ofQuantity negated (.float x)
  | .bool b => .ofTruth negated (pure (.bool b)) (pure b)
  | .var path => .ofVariable negated [] path
  | .list items =>
    .ofTruth negated (do return .arr (← evaluateAll (itemMeanings setting items))) fail
  | .call call => .ofCall negated (call.meaning setting)
  | .test opposite subject name arguments =>
    let truth := (· != opposite) <$> Meaning.testTruth subject name (itemMeanings setting arguments)
    .ofTruth negated (.bool <$> truth) truth
  | .concat parts => .ofConcat negated [] (partMeanings setting parts)
  | .math op left right => .ofMath negated op (left.meaning setting) (right.meaning setting)
  | .compare op left right =>
    Meaning.ofCondition (Meaning.comparison negated op (left.meaning setting) (right.meaning setting))
  | .connect op left right =>
    .ofCondition ((· != negated) <$> Meaning.connection op (left.meaning setting)
      (right.meaning setting))
  | .member opposite item container =>
    let truth : Rendering Bool := do
      let item ← (item.meaning setting).value
      let container ← (container.meaning setting).value
      return (← need (Meaning.contains? container item)) != opposite
    .ofTruth negated (.bool <$> truth) truth
termination_by structural term => term

def Call.meaning (setting : Setting) : Call → Rendering Json
  | .mk name arguments => callFunction setting name (argumentMeanings setting arguments)
termination_by structural call => call

def argumentMeanings (setting : Setting) : List (String × Expr) → List (String × Rendering Json)
  | [] => []
  | (name, value) :: rest =>
    (name, (value.meaning setting).value) :: argumentMeanings setting rest
termination_by structural arguments => arguments

def itemMeanings (setting : Setting) : List Expr → List (Rendering Json)
  | [] => []
  | item :: rest => (item.meaning setting).value :: itemMeanings setting rest
termination_by structural items => items

def filterMeanings (setting : Setting) :
    List Call → List (String × List (String × Rendering Json))
  | [] => []
  | .mk name arguments :: rest =>
    (name, argumentMeanings setting arguments) :: filterMeanings setting rest
termination_by structural filters => filters

def partMeanings (setting : Setting) : List Term → List (Rendering String)
  | [] => []
  | .float x :: rest => pure (Layout.sheet.render x) :: partMeanings setting rest
  | part :: rest =>
    ((part.meaning setting false).value >>= Meaning.partText) :: partMeanings setting rest
termination_by structural parts => parts

end

end Templating.Sheet
