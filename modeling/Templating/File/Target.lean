import Templating.File.Tree
import Templating.Template

/-! Rendering to a path: to one of the two standard streams, or to a file that is touched only after
the render has succeeded. -/

namespace Templating

/-- Where a path sends output. -/
inductive Target where
  | standardOutput
  | standardError
  | file
  deriving DecidableEq, Repr

namespace Target

def outputName : String := "stdout"

def errorName : String := "stderr"

/-- The target of a path; a stream's name counts by its steps, so a slash may follow it. -/
def ofPath (path : String) : Target :=
  if Path.same path outputName then standardOutput
  else if Path.same path errorName then standardError
  else file

end Target

/-- The writers of the standard streams. -/
structure Streams where
  output : Writer
  errors : Writer

namespace Streams

/-- Standard streams without limit. -/
def unlimited : Streams := ⟨.unlimited, .unlimited⟩

/-- The writer that an execution has where its output goes to a path. What is for a file is held back
by one without limit. -/
def receiver (streams : Streams) (path : String) : Writer :=
  match Target.ofPath path with
  | .standardOutput => streams.output
  | .standardError => streams.errors
  | .file => .unlimited

theorem receiver_of_file {path : String} (h : Target.ofPath path = .file) (streams : Streams) :
    streams.receiver path = .unlimited := by
  rw [receiver, h]

end Streams

/-- What a render to a path did: its answer, the tree after it, the octets that each standard stream
got, and the signal. -/
structure Written where
  outcome : Except Fault Unit
  tree : FileTree
  output : Bytes
  errors : Bytes
  signal? : Option Signal

/-- The mode of directories that a render makes. -/
def ownerDirMode : Nat := 0o700

/-- The mode of files that a render makes. -/
def ownerFileMode : Nat := 0o600

namespace FileTree

def makeParents (tree : FileTree) (path : String) : FileTree × Except Fault Unit :=
  match Path.parent? path with
  | none => (tree, .ok ())
  | some dir =>
    if dir = "" then (tree, .ok ())
    else
      let (tree, made) := tree.makeDirs ownerDirMode dir
      (tree, made.mapError (.createDir dir))

/-- Writes a file, with the directories on the way to it. -/
def save (tree : FileTree) (path : String) (bytes : Bytes) : FileTree × Except Fault Unit :=
  match tree.makeParents path with
  | (tree, .error fault) => (tree, .error fault)
  | (tree, .ok ()) =>
    match tree.openToWrite ownerFileMode path with
    | .error cause => (tree, .error (.openFile path cause))
    | .ok (tree, place) =>
      let (tree, written) := tree.append place bytes
      (tree, written.mapError (.writeFile path))

end FileTree

namespace Template

/-- Renders to a path. A failed template touches nothing; output to a file is complete before the
tree is touched. -/
def renderToFile (template : Template) (context : Context) (tree : FileTree) (path : String)
    (streams : Streams := .unlimited) : Written :=
  match template with
  | failed fault => ⟨.error fault, tree, [], [], context.signal?⟩
  | ready _ =>
    match Target.ofPath path with
    | .standardOutput =>
      let rendered := template.renderTo context streams.output
      ⟨rendered.outcome, tree, rendered.written, [], rendered.signal?⟩
    | .standardError =>
      let rendered := template.renderTo context streams.errors
      ⟨rendered.outcome, tree, [], rendered.written, rendered.signal?⟩
    | .file =>
      let rendered := template.renderBytes context
      match rendered.outcome with
      | .error fault => ⟨.error fault, tree, [], [], rendered.signal?⟩
      | .ok bytes =>
        let (tree, saved) := tree.save path bytes
        ⟨saved, tree, [], [], rendered.signal?⟩

end Template

end Templating
