import Templating.Sheet.Meaning
import Templating.Text.Cluster

/-! Rendering sheets: what statements do, and the run of a sheet. -/

namespace Templating.Sheet

namespace Rendering

def inScope (change : Scope → Scope) : Rendering Unit :=
  modify fun state => { state with scope := change state.scope }

/-- The rounds of a loop through a text: one for each character, and the visible characters as long as
there are some. -/
def textRounds (text : String) : List (Option String × Option Json) :=
  let items := (Text.clusters text).map (some ∘ Json.str)
  (items ++ List.replicate (text.length - items.length) none).map (none, ·)

/-- The rounds of a loop: the items of a list or of a text, without keys, or the fields of an object,
with their names. -/
def rounds? (keyed : Bool) : Json → Option (List (Option String × Option Json))
  | .arr items => if keyed then none else some (items.map (none, some ·))
  | .str text => if keyed then none else some (textRounds text)
  | .obj fields =>
    if keyed then some (fields.map fun (key, value) => (some key, some value)) else none
  | _ => none

/-- Whether a loop may go through the value of an expression: it must be a variable, a call or a
list. -/
def isIterable : Expr → Bool
  | .mk _ (.var _) _ => true
  | .mk _ (.call _) _ => true
  | .mk _ (.list _) _ => true
  | _ => false

def roundFrame (key? : Option String) (name : String) (size index : Nat)
    (item : Option String × Option Json) : Frame :=
  ⟨[], some ⟨do return (← key?, ← item.1), name, item.2, index, size⟩⟩

/-- Runs the rounds of a loop from an index on, each in a frame of its own. -/
def runRounds (body : Rendering Unit)
    (frame : (index : Nat) → (Option String × Option Json) → Frame) :
    (index : Nat) → List (Option String × Option Json) → Rendering Unit
  | _, [] => pure ()
  | index, item :: rest => do
    inScope fun scope => { scope with frames := frame index item :: scope.frames }
    body
    inScope fun scope => { scope with frames := scope.frames.tail }
    runRounds body frame (index + 1) rest

mutual

def exec (setting : Setting) : Stmt → Rendering Unit
  | .text text => write text
  | .print value => do write (display (← (value.meaning setting).value))
  | .assign name value => do
    let value ← (value.meaning setting).value
    inScope (·.assign name value)
  | .branch arms otherwise => do
    if ← execArms setting arms then pure () else execAll setting otherwise
  | .loop key? name items body otherwise => do
    if !isIterable items then fail
    let rounds ← need (rounds? key?.isSome (← (items.meaning setting).value))
    if rounds.isEmpty then execAll setting otherwise
    else runRounds (execAll setting body) (roundFrame key? name rounds.length) 0 rounds
termination_by structural statement => statement

def execAll (setting : Setting) : List Stmt → Rendering Unit
  | [] => pure ()
  | statement :: rest => do
    exec setting statement
    execAll setting rest
termination_by structural statements => statements

/-- Runs the first arm whose condition is true, and tells whether there was one. -/
def execArms (setting : Setting) : List (Expr × List Stmt) → Rendering Bool
  | [] => pure false
  | (condition, body) :: rest => do
    if ← (condition.meaning setting).truth then
      execAll setting body
      return true
    else execArms setting rest
termination_by structural arms => arms

end

end Rendering

def run (label : String) (functions : Registry) (sheet : List Stmt) (data : Json)
    (hasSignal : Bool) : Run :=
  let (result, state) :=
    (Rendering.execAll ⟨functions, hasSignal⟩ sheet).run.run ⟨Scope.start data, []⟩
  ⟨state.steps.reverse,
    result.mapError fun failure => .execute (.sheet label failure.function?)⟩

end Templating.Sheet
