import Templating.File.Target

/-! Sessions: signals that handles share, a file tree, and what is done with them, one action after
another. Renders run with the signal of a handle or with none. -/

namespace Templating

/-- The place of the signal that a handle leads to. -/
def SignalTable.place? (table : SignalTable) (handle : String) : Option Nat :=
  Assoc.get? handle table.handles

/-- Where a render leaves its output. -/
inductive Sink where
  | text
  | bytes
  | writer (writer : Writer)
  | path (path : String) (streams : Streams)

/-- The writer that an execution has where its output goes to a sink. -/
def Sink.receiver : Sink → Writer
  | .text => .unlimited
  | .bytes => .unlimited
  | .writer given => given
  | .path target streams => streams.receiver target

/-- Whether output for a sink is saved to a file. -/
def Sink.isFile : Sink → Bool
  | .path target _ => Target.ofPath target = .file
  | _ => false

/-- The answer of a render, for each way of rendering. -/
inductive Reply where
  | text (rendered : Rendered String)
  | bytes (rendered : Rendered Bytes)
  | writer (rendered : Rendered Unit)
  | path (written : Written)

namespace Reply

def faultOf : Except Fault α → Option Fault
  | .ok _ => none
  | .error fault => some fault

/-- Why a render failed, if it did. -/
def fault? : Reply → Option Fault
  | text rendered => faultOf rendered.outcome
  | bytes rendered => faultOf rendered.outcome
  | writer rendered => faultOf rendered.outcome
  | path written => faultOf written.outcome

/-- The signal as a render left it. -/
def signal? : Reply → Option Signal
  | text rendered => rendered.signal?
  | bytes rendered => rendered.signal?
  | writer rendered => rendered.signal?
  | path written => written.signal?

/-- The tree after a render that began with `tree`. -/
def treeAfter (tree : FileTree) : Reply → FileTree
  | path written => written.tree
  | _ => tree

/-- The same reply, with another tree after the render. -/
def inTree (tree : FileTree) : Reply → Reply
  | path written => .path { written with tree }
  | reply => reply

end Reply

/-- Renders to a sink. -/
def Template.send (template : Template) (context : Context) (tree : FileTree) : Sink → Reply
  | .text => .text (template.render context)
  | .bytes => .bytes (template.renderBytes context)
  | .writer writer => .writer (template.renderTo context writer)
  | .path path streams => .path (template.renderToFile context tree path streams)

/-- An action of a session. -/
inductive Action where
  /-- Makes a signal and a handle of it. -/
  | create (handle : String)
  /-- Makes another handle of the signal that a handle leads to. -/
  | share (handle other : String)
  | abort (handle reason : String)
  | reset (handle : String)
  /-- Renders with the signal of a handle, or without one. -/
  | render (template : Template) (data : Except Fault Json) (handle? : Option String) (sink : Sink)

/-- Signals and files. -/
structure Session where
  signals : SignalTable
  tree : FileTree

namespace Session

/-- A session without signals. -/
def start (tree : FileTree) : Session := ⟨.empty, tree⟩

def context (session : Session) (data : Except Fault Json) (handle? : Option String) : Context :=
  ⟨data, handle?.bind session.signals.get?⟩

def reply (session : Session) (template : Template) (data : Except Fault Json)
    (handle? : Option String) (sink : Sink) : Reply :=
  template.send (session.context data handle?) session.tree sink

/-- Puts the signal of a render back where its handle leads. -/
def keep (signals : SignalTable) (handle? : Option String) (signal? : Option Signal) :
    SignalTable :=
  match handle?, signal? with
  | some handle, some signal => signals.set handle signal
  | _, _ => signals

def act (session : Session) : Action → Session
  | .create handle => { session with signals := session.signals.create handle }
  | .share handle other => { session with signals := session.signals.share handle other }
  | .abort handle reason => { session with signals := session.signals.abort handle reason }
  | .reset handle => { session with signals := session.signals.reset handle }
  | .render template data handle? sink =>
    let reply := session.reply template data handle? sink
    ⟨keep session.signals handle? reply.signal?, reply.treeAfter session.tree⟩

def run (session : Session) (actions : List Action) : Session := actions.foldl act session

end Session

end Templating
