import Templating.Sheet.Pointer

/-! What is in sight where a sheet renders: the data, what the sheet has assigned, and the loops around.
A name that a frame binds is looked for further out where the frame's value lacks the part. -/

namespace Templating.Sheet

/-- The present round of a loop. -/
structure Iteration where
  /-- The name of the keys and the present key. -/
  key? : Option (String × String)
  name : String
  /-- The present item; a text has more rounds than items where its visible characters consist of
  several. -/
  value? : Option Json
  index : Nat
  size : Nat

/-- The variables of a sheet or of a loop's present round, the latest binding first. -/
structure Frame where
  bindings : List (String × Json)
  iteration? : Option Iteration

/-- What is in sight. -/
structure Scope where
  /-- The frames, the innermost first. -/
  frames : List Frame
  /-- The variables that the data gives. -/
  data : List (String × Json)

def Iteration.about? (iteration : Iteration) (question : String) : Option Json :=
  match question with
  | "index" => some (.int (iteration.index + 1))
  | "index0" => some (.int iteration.index)
  | "first" => some (.bool (iteration.index == 0))
  | "last" => some (.bool (iteration.index + 1 == iteration.size))
  | _ => none

/-- What a pointer leads to in the present round of a loop: what the loop knows, the item, the key, or
a part of the item. -/
def Iteration.find? (iteration : Iteration) (pointer : Pointer) : Option Json :=
  match (if pointer.root = "loop" then pointer.rest?.bind iteration.about? else none) with
  | some value => some value
  | none =>
    match pointer.rest? with
    | none =>
      if pointer.root = iteration.name then iteration.value?
      else iteration.key?.bind fun (name, key) =>
        if pointer.root = name then some (.str key) else none
    | some rest =>
      if pointer.root = iteration.name ∧ rest ≠ "" then iteration.value?.bind (partAt rest)
      else none

def among? (pointer : Pointer) (value? : Option Json) : Option Json :=
  match pointer.rest? with
  | none => value?
  | some rest => value?.bind (partAt rest)

def Frame.find? (pointer : Pointer) (frame : Frame) : Option Json :=
  match among? pointer (frame.bindings.lookup pointer.root) with
  | some value => some value
  | none => frame.iteration?.bind (·.find? pointer)

/-- The variables of a frame, those of its loop last. -/
def Frame.variables (frame : Frame) : List (String × Json) :=
  frame.bindings.reverse ++
    match frame.iteration? with
    | none => []
    | some iteration =>
      (iteration.value?.map (iteration.name, ·)).toList ++
        (iteration.key?.map fun (name, key) => (name, .str key)).toList

namespace Scope

/-- All that is in sight. Of several frames with one name the outermost counts, and any frame before
the data. -/
def whole (scope : Scope) : Json :=
  .ofFields (scope.data ++ scope.frames.flatMap Frame.variables)

/-- The name of the variable that holds the text of all that is in sight. -/
def wholeName : String := "__tera_context"

def find? (scope : Scope) (pointer : Pointer) : Option Json :=
  if pointer = ⟨wholeName, none⟩ then some (.str (scope.whole.linedText 0))
  else
    match scope.frames.findSome? (Frame.find? pointer) with
    | some value => some value
    | none => among? pointer (Assoc.get? pointer.root scope.data)

def assign (scope : Scope) (name : String) (value : Json) : Scope :=
  match scope.frames with
  | [] => scope
  | frame :: rest =>
    { scope with frames := { frame with bindings := (name, value) :: frame.bindings } :: rest }

mutual

def value? (scope : Scope) : Path → Option Json
  | .mk root steps => do
    let texts ← stepTexts? scope steps
    scope.find? (.ofSteps root texts)
termination_by structural path => path

def stepTexts? (scope : Scope) : List Step → Option (List String)
  | [] => some []
  | first :: rest => do
    let text ← stepText? scope first
    return text :: (← stepTexts? scope rest)
termination_by structural steps => steps

/-- The text of a step, with the value of the path in it. A bracket that opens inside a quoted key
leads nowhere. -/
def stepText? (scope : Scope) : Step → Option String
  | .field name => some ("." ++ name)
  | .place digits => some (bracketed digits)
  | .quoted quote text =>
    if text.contains '[' then none else some (bracketed (quote.toString ++ text ++ quote.toString))
  | .computed path => ((value? scope path).bind inserted?).map bracketed
  | .nowhere => none
termination_by structural step => step

end

/-- The variables that data gives: the fields of an object, and all of it as `data` where no field has
that name. -/
def dataVariables (data : Json) : List (String × Json) :=
  let fields := match data with
    | .obj fields => fields
    | _ => []
  match Assoc.get? "data" fields with
  | some _ => fields
  | none => Assoc.insert "data" data fields

def start (data : Json) : Scope := ⟨[⟨[], none⟩], dataVariables data⟩

end Scope

end Templating.Sheet
