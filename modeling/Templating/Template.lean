import Templating.Program

/-! Templates, ready to run or failed, and rendering them to a writer, to octets and to text. -/

namespace Templating

/-- A template that can run: its program for the context's data, and for whether the context has a
signal. -/
structure Executor where
  program : (data : Except Fault Json) → (hasSignal : Bool) → Program

namespace Executor

/-- The executor of runs that end with the fault that `refusal` gives when a write is refused. -/
def ofRuns (run : (data : Except Fault Json) → (hasSignal : Bool) → Run)
    (refusal : IoFault → Fault) : Executor where
  program data hasSignal := (run data hasSignal).program refusal

/-- The executor of runs with data. Without data it fails at once. -/
def ofDataRuns (run : (data : Json) → (hasSignal : Bool) → Run) (refusal : IoFault → Fault) :
    Executor :=
  .ofRuns
    (fun data hasSignal =>
      match data with
      | .ok data => run data hasSignal
      | .error fault => .failed fault)
    refusal

def execute (executor : Executor) (context : Context) (writer : Writer) : Execution :=
  (executor.program context.data context.signal?.isSome).execute writer context.signal?

end Executor

/-- The answer of a render, the octets that it wrote, and the signal as it left it. -/
structure Rendered (α : Type) where
  outcome : Except Fault α
  written : Bytes
  signal? : Option Signal

/-- A resolved template: ready to run, or failed with the fault that every render gives. -/
inductive Template where
  | ready (executor : Executor)
  | failed (fault : Fault)

namespace Template

def fault? : Template → Option Fault
  | ready _ => none
  | failed fault => some fault

def isFailed (template : Template) : Bool := template.fault?.isSome

/-- The state of a template, for a reader who looks into it. -/
def describe : Template → String
  | ready _ => "Template::Ready(..)"
  | failed fault => "Template::Failed(" ++ fault.describe ++ ")"

/-- Renders to a writer. A mark on the signal when the program has ended wins over how it ended. -/
def renderTo (template : Template) (context : Context) (writer : Writer) : Rendered Unit :=
  match template with
  | failed fault => ⟨.error fault, [], context.signal?⟩
  | ready executor =>
    let execution := executor.execute context writer
    ⟨execution.verdict, execution.taken, execution.signal?⟩

/-- Renders to octets. -/
def renderBytes (template : Template) (context : Context) : Rendered Bytes :=
  let rendered := template.renderTo context Writer.unlimited
  ⟨rendered.outcome.map fun _ => rendered.written, rendered.written, rendered.signal?⟩

/-- Octets as text. -/
def decodeOutput (bytes : Bytes) : Except Fault String :=
  match Utf8.decode bytes with
  | .ok text => .ok text
  | .error defect => .error (.notText defect.message)

def render (template : Template) (context : Context) : Rendered String :=
  let rendered := template.renderBytes context
  ⟨rendered.outcome.bind decodeOutput, rendered.written, rendered.signal?⟩

end Template

end Templating
