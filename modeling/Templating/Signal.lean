import Templating.Assoc
import Templating.Fault

/-! Abort signals: a template marks one with a reason, and whoever renders sees the mark. Handles
share signals: what is done through one handle is seen through every other. -/

namespace Templating

/-- An abort signal: the first reason recorded since its creation or its last reset. -/
structure Signal where
  reason? : Option String
  deriving DecidableEq, Repr

namespace Signal

/-- The reason of an abort that gives none. -/
def defaultReason : String := "aborted"

/-- A signal without a reason. -/
def clear : Signal := ⟨none⟩

/-- Records a reason, unless there is one. -/
def abort (signal : Signal) (reason : String) : Signal :=
  match signal.reason? with
  | some _ => signal
  | none => ⟨some reason⟩

def isAborted (signal : Signal) : Bool := signal.reason?.isSome

def fault? (signal : Signal) : Option Fault := signal.reason?.map Fault.aborted

end Signal

/-- Signals and the handles that lead to them: a handle's name leads to the place of a signal. -/
structure SignalTable where
  handles : List (String × Nat)
  signals : List Signal
  deriving Repr

namespace SignalTable

def empty : SignalTable := ⟨[], []⟩

def create (table : SignalTable) (handle : String) : SignalTable :=
  ⟨Assoc.insert handle table.signals.length table.handles, table.signals ++ [Signal.clear]⟩

def share (table : SignalTable) (handle other : String) : SignalTable :=
  match Assoc.get? handle table.handles with
  | some place => { table with handles := Assoc.insert other place table.handles }
  | none => table

def get? (table : SignalTable) (handle : String) : Option Signal := do
  let place ← Assoc.get? handle table.handles
  table.signals[place]?

/-- Puts a signal in place of the one that a handle leads to. -/
def set (table : SignalTable) (handle : String) (signal : Signal) : SignalTable :=
  match Assoc.get? handle table.handles with
  | some place => { table with signals := table.signals.set place signal }
  | none => table

def abort (table : SignalTable) (handle reason : String) : SignalTable :=
  match table.get? handle with
  | some signal => table.set handle (signal.abort reason)
  | none => table

def reset (table : SignalTable) (handle : String) : SignalTable :=
  table.set handle Signal.clear

end SignalTable

end Templating
