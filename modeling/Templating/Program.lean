import Templating.Context

/-! Programs: what a template does when it runs, as steps on a writer and on the signal of its
context, and what their execution does. What follows a step may depend on how the step went. A run
is a list of steps fixed beforehand; as a program it ends at the first write that is refused. -/

namespace Templating

/-- A program: a step and what follows it, or an end. -/
inductive Program where
  | ended (outcome : Except Fault Unit)
  /-- Offers octets to the writer. What follows learns the failure of the write, if it failed. -/
  | write (bytes : Bytes) (next : Option IoFault → Program)
  /-- Marks the context's signal. -/
  | abort (reason : String) (next : Program)
  /-- Clears the context's signal. -/
  | reset (next : Program)
  /-- Looks at the reason of the context's signal. -/
  | look (next : Option String → Program)

/-- A writer: how many octets it takes, if that is limited, and the failure of a write beyond them.
-/
structure Writer where
  room? : Option Nat
  refusal : IoFault
  deriving Repr

namespace Writer

/-- A writer without limit. -/
def unlimited : Writer := ⟨none, .custom .other ""⟩

/-- A writer that takes `room` octets. -/
def limited (room : Nat) (refusal : IoFault) : Writer := ⟨some room, refusal⟩

/-- What a writer takes of octets, the failure if it refuses some, and the writer afterwards. Of
octets that do not fit it takes those that do. -/
def offer (writer : Writer) (bytes : Bytes) : Bytes × Option IoFault × Writer :=
  match writer.room? with
  | none => (bytes, none, writer)
  | some room =>
    if bytes.length ≤ room then (bytes, none, { writer with room? := some (room - bytes.length) })
    else (bytes.take room, some writer.refusal, { writer with room? := some 0 })

end Writer

/-- What an execution has done: how it ended, the octets that the writer took, whether it refused
any, and the signal as it is then. -/
structure Execution where
  outcome : Except Fault Unit
  taken : Bytes
  refused : Bool
  signal? : Option Signal

namespace Execution

/-- An execution after a write. -/
def afterWrite (taken : Bytes) (failure? : Option IoFault) (execution : Execution) : Execution :=
  { execution with
    taken := taken ++ execution.taken
    refused := failure?.isSome || execution.refused }

/-- How a render with this execution ends: a mark on the signal wins over the outcome. -/
def verdict (execution : Execution) : Except Fault Unit :=
  match execution.signal?.bind Signal.fault? with
  | some fault => .error fault
  | none => execution.outcome

end Execution

/-- Executes a program with a writer and the signal of a context that may have none. -/
def Program.execute (writer : Writer) (signal? : Option Signal) : Program → Execution
  | ended outcome => ⟨outcome, [], false, signal?⟩
  | write bytes next =>
    let (taken, failure?, writer) := writer.offer bytes
    ((next failure?).execute writer signal?).afterWrite taken failure?
  | abort reason next => next.execute writer (signal?.map (·.abort reason))
  | reset next => next.execute writer (signal?.map fun _ => Signal.clear)
  | look next => (next (signal?.bind (·.reason?))).execute writer signal?

/-- A step of a run. -/
inductive Event where
  /-- Octets for the writer. -/
  | write (bytes : Bytes)
  /-- A mark on the context's signal. -/
  | abort (reason : String)
  /-- A call of a registry function. -/
  | call (name : String) (arguments : List Json)

/-- A run: its steps and how it ends if no write is refused. -/
structure Run where
  events : List Event
  outcome : Except Fault Unit

namespace Run

def text (text : String) : Run := ⟨[.write (Utf8.encode text)], .ok ()⟩

/-- A run that fails without a step. -/
def failed (fault : Fault) : Run := ⟨[], .error fault⟩

/-- The octets for the writer, in order. -/
def bytes (run : Run) : Bytes :=
  run.events.flatMap fun
    | .write bytes => bytes
    | _ => []

/-- The program that takes steps one after another and then ends. A refused write ends it with the
fault that `refusal` gives. Calls of functions touch neither writer nor signal. -/
def programOf (refusal : IoFault → Fault) (outcome : Except Fault Unit) : List Event → Program
  | [] => .ended outcome
  | .write bytes :: rest => .write bytes fun
    | none => programOf refusal outcome rest
    | some cause => .ended (.error (refusal cause))
  | .abort reason :: rest => .abort reason (programOf refusal outcome rest)
  | .call _ _ :: rest => programOf refusal outcome rest

def program (refusal : IoFault → Fault) (run : Run) : Program :=
  programOf refusal run.outcome run.events

end Run

end Templating
