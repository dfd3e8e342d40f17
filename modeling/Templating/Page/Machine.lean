import Templating.Page.Filter
import Templating.Page.Tree
import Templating.Registry
import Templating.Template

/-! The state of a page that renders: the variables in sight, the macros and what they close over, the
texts that are being captured, and the steps taken so far. A fault keeps the steps before it. -/

namespace Templating.Page

/-- What a render of a page cannot change. -/
structure Setting where
  label : String
  /-- Whether printed values are escaped for markup. -/
  escapes : Bool
  functions : Registry

/-- Variables, the latest binding of a name first. -/
abbrev Variables := List (String × Value)

/-- Where a frame looks for names that it does not bind itself. -/
inductive Base where
  | nothing
  | given (names : Variables)
  /-- What a macro closes over, by its number. -/
  | closure (id : Nat)

/-- A scope: its own names, and where it looks further. -/
structure Frame where
  locals : Variables
  base : Base
  /-- What the macros that the scope defines close over, by its number. -/
  closure? : Option Nat
  loop? : Option LoopInfo
  /-- The items of the loop before and after the present one. -/
  neighbours : Value × Value
  /-- What the loop of the scope repeats, if it may be called. -/
  repeats? : Option (Target × List Stmt)

/-- A macro: its parameters, the defaults of the last of them, its body, and what it closes over. -/
structure MacroRecord where
  name : String
  parameters : List String
  defaults : List Expr
  body : List Stmt
  closure : Nat

/-- The state of a render. -/
structure Machine where
  /-- The scopes, the innermost first. -/
  frames : List Frame
  /-- The depth of the scopes that called the present ones. -/
  outer : Nat
  /-- What macros close over, by number. -/
  closures : List Variables
  /-- The macros, by number. -/
  macros : List MacroRecord
  /-- The texts that are being captured, the innermost first. -/
  captures : List String
  /-- The steps taken, the latest first. -/
  steps : List Event

abbrev Rendering := ExceptT PageFault (StateM Machine)

namespace Rendering

def deepest : Nat := 500

/-- What a call of a macro adds to the depth, beside its scope. -/
def macroCost : Nat := 5

def embedCost : Nat := 10

def failAt (setting : Setting) (line : Nat) (trouble : Trouble) : Rendering α :=
  throw ⟨trouble.kind, trouble.function?, some ⟨setting.label, line⟩⟩

def lift (setting : Setting) (line : Nat) (outcome : Outcome α) : Rendering α :=
  match outcome with
  | .ok value => pure value
  | .error trouble => failAt setting line trouble

def step (event : Event) : Rendering Unit :=
  modify fun machine => { machine with steps := event :: machine.steps }

/-- Writes a text, to the innermost capture if there is one. -/
def write (text : String) : Rendering Unit :=
  modify fun machine =>
    match machine.captures with
    | [] => { machine with steps := .write (Utf8.encode text) :: machine.steps }
    | capture :: rest => { machine with captures := (capture ++ text) :: rest }

def captured (part : Rendering Unit) : Rendering String := do
  modify fun machine => { machine with captures := "" :: machine.captures }
  part
  let machine ← get
  match machine.captures with
  | [] => pure ""
  | capture :: rest =>
    set { machine with captures := rest }
    pure capture

/-- A text that the page itself has made: safe where values are escaped. -/
def made (setting : Setting) (text : String) : Value := .str text setting.escapes

def Frame.find? (closures : List Variables) (name : String) (frame : Frame) : Option Value :=
  match frame.locals.lookup name with
  | some value => some value
  | none =>
    match (if name = "loop" then frame.loop? else none) with
    | some info => some (.loop info frame.neighbours.1 frame.neighbours.2)
    | none =>
      match frame.base with
      | .nothing => none
      | .given names => names.lookup name
      | .closure id => (closures[id]?.getD []).lookup name

/-- The function that every page knows under a name: one of the registry, or one of the language. -/
def global? (setting : Setting) (name : String) : Option Value :=
  if setting.functions.contains name || (builtin? name).isSome then some (.function name) else none

def Machine.find? (setting : Setting) (name : String) (machine : Machine) : Option Value :=
  match machine.frames.findSome? (Frame.find? machine.closures name) with
  | some value => some value
  | none => global? setting name

def find? (setting : Setting) (name : String) : Rendering (Option Value) := do
  pure (Machine.find? setting name (← get))

/-- Binds a name in the innermost scope, and in what its macros close over. -/
def assign (name : String) (value : Value) : Rendering Unit :=
  modify fun machine =>
    match machine.frames with
    | [] => machine
    | frame :: rest =>
      let closures := match frame.closure? with
        | some id => machine.closures.modify id ((name, value) :: ·)
        | none => machine.closures
      { machine with
        frames := { frame with locals := (name, value) :: frame.locals } :: rest
        closures := closures }

def plainFrame : Frame := ⟨[], .nothing, none, none, (.missing, .missing), none⟩

def depth (machine : Machine) : Nat := machine.outer + machine.frames.length

def checkDepth (setting : Setting) (line : Nat) : Rendering Unit := do
  if deepest < depth (← get) then failAt setting line .invalid else pure ()

def within (setting : Setting) (line : Nat) (frame : Frame) (part : Rendering α) :
    Rendering α := do
  modify fun machine => { machine with frames := frame :: machine.frames }
  checkDepth setting line
  let result ← part
  modify fun machine => { machine with frames := machine.frames.tail }
  pure result

/-- The variables in sight, without those of the language. -/
def visible (machine : Machine) : Variables :=
  machine.frames.flatMap fun frame =>
    frame.locals ++
      (match frame.loop? with
        | some info => [("loop", Value.loop info frame.neighbours.1 frame.neighbours.2)]
        | none => []) ++
      match frame.base with
      | .nothing => []
      | .given names => names
      | .closure id => machine.closures[id]?.getD []

/-- The number of what the macros of the innermost scope close over: all that is in sight when the
scope defines its first macro, and what the scope binds later. -/
def closureOf : Rendering Nat := do
  let machine ← get
  match machine.frames with
  | [] => pure 0
  | frame :: rest =>
    match frame.closure? with
    | some id => pure id
    | none =>
      let id := machine.closures.length
      set { machine with
        closures := machine.closures ++ [visible machine]
        frames := { frame with closure? := some id } :: rest }
      pure id

def addMacro (record : MacroRecord) : Rendering Nat := do
  let machine ← get
  set { machine with macros := machine.macros ++ [record] }
  pure machine.macros.length

/-- Calls a function of the registry with the JSON forms of arguments. -/
def callRegistered (name : String) (f : Function) (arguments : List Value) :
    Rendering (Outcome Value) := do
  match Value.toItems? arguments with
  | none => pure (.error ⟨.badSerialization, none⟩)
  | some arguments =>
    step (.call name arguments)
    match f arguments with
    | .ok value => pure (.ok (.ofJson value))
    | .error message => pure (.error ⟨.invalidOperation, some ⟨name, message⟩⟩)

/-- Marks the context's signal with the reason that the arguments give. -/
def callAbort (arguments : List Value) : Rendering (Outcome Value) := do
  match Value.oneArgument? arguments with
  | .error trouble => pure (.error trouble)
  | .ok argument =>
    match argument.toText? with
    | .error trouble => pure (.error trouble)
    | .ok reason =>
      step (.abort (reason.getD Signal.defaultReason))
      pure (.ok (.text ""))

end Rendering

end Templating.Page
