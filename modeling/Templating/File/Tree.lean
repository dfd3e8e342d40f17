import Templating.Fault
import Templating.File.Path

/-! A tree of directories, files and devices, without links, and the operations on it that rendering
and reading need. -/

namespace Templating

/-- What a place in the tree holds; a mode is nine permission bits. -/
inductive Entry where
  | dir (mode : Nat)
  | file (mode : Nat) (content : Bytes)
  /-- A device that drops what is written to it, or has no space for it. -/
  | device (full : Bool)
  deriving DecidableEq, Repr

def Entry.isDir : Entry → Bool
  | dir _ => true
  | _ => false

/-- The place of an entry: the names that lead to it from the root. -/
abbrev Place := List String

/-- A tree of entries and the directory that relative paths start from. -/
structure FileTree where
  entry : Place → Option Entry
  current : Place

namespace FileTree

/-- A tree with an empty current directory, beside the devices. -/
def initial : FileTree where
  entry place :=
    if place = [] ∨ place = ["work"] ∨ place = ["dev"] then some (.dir 0o755)
    else if place = ["dev", "null"] then some (.device false)
    else if place = ["dev", "full"] then some (.device true)
    else none
  current := ["work"]

def set (tree : FileTree) (place : Place) (entry : Entry) : FileTree :=
  { tree with entry := fun other => if other = place then some entry else tree.entry other }

/-- The longest name of an entry, in octets. -/
def longestName : Nat := 255

/-- The least length of a path that is too long, in octets. -/
def tooLongPath : Nat := 4096

/-- Whether a place holds a directory, and else why not. -/
def directory (tree : FileTree) (place : Place) : Except SystemFault Unit :=
  match tree.entry place with
  | none => .error .noEntry
  | some entry => if entry.isDir then .ok () else .error .notDirectory

def step (tree : FileTree) (place : Place) (piece : List Char) : Except SystemFault Place := do
  tree.directory place
  if Path.isVoid piece then pure place
  else if piece = ['.', '.'] then pure place.dropLast
  else if longestName < (String.ofList piece).utf8ByteSize then throw .nameTooLong
  else pure (place ++ [String.ofList piece])

/-- Follows pieces of a path one after another. -/
def walk (tree : FileTree) (place : Place) : List (List Char) → Except SystemFault Place
  | [] => .ok place
  | piece :: rest => do
    let next ← tree.step place piece
    walk tree next rest

/-- A path apart for the operations on it: the place where it starts and the pieces after it. -/
def start (tree : FileTree) (path : String) : Except IoFault (Place × List (List Char)) :=
  if path.toList.contains '\x00' then .error .nulInPath
  else if path = "" then .error (.system .noEntry)
  else if tooLongPath ≤ path.utf8ByteSize then .error (.system .nameTooLong)
  else
    match Path.split path.toList with
    | [] :: rest => .ok ([], rest)
    | pieces => .ok (tree.current, pieces)

def lift (result : Except SystemFault α) : Except IoFault α := result.mapError .system

/-- The place and the entry that a path leads to. A slash or a dot at the end asks for a
directory. -/
def find (tree : FileTree) (path : String) : Except IoFault (Place × Entry) := do
  let (place, pieces) ← tree.start path
  let place ← lift (tree.walk place pieces)
  match tree.entry place with
  | some entry => pure (place, entry)
  | none => throw (.system .noEntry)

def isDirectory (tree : FileTree) (path : String) : Bool :=
  match tree.find path with
  | .ok (_, entry) => entry.isDir
  | .error _ => false

/-- The place that the last step of a path names and whether a slash follows it, or `none` if the
path ends in a dot or in nothing but slashes. -/
def last (tree : FileTree) (path : String) : Except IoFault (Option (Place × Bool)) := do
  let (place, pieces) ← tree.start path
  let stripped := (pieces.reverse.dropWhile (· == [])).reverse
  match stripped.getLast? with
  | none => pure none
  | some piece =>
    let holder ← lift (tree.walk place stripped.dropLast)
    lift (tree.directory holder)
    if piece = ['.'] ∨ piece = ['.', '.'] then pure none
    else
      let target ← lift (tree.step holder piece)
      pure (some (target, stripped.length < pieces.length))

def makeDir (tree : FileTree) (mode : Nat) (path : String) : Except IoFault FileTree := do
  match ← tree.last path with
  | none => throw (.system .exists)
  | some (place, _) =>
    match tree.entry place with
    | some _ => throw (.system .exists)
    | none => pure (tree.set place (.dir mode))

/-- Makes a directory and those on the way to it, at most `fuel` of them. A directory that is there
already is fine. Directories made before a failure stay. -/
def makeDirsWithin (mode : Nat) : (fuel : Nat) → FileTree → String → FileTree × Except IoFault Unit
  | 0, tree, _ => (tree, .error (.system .nameTooLong))
  | fuel + 1, tree, path =>
    if path = "" then (tree, .ok ()) else
      match tree.makeDir mode path with
      | .ok tree => (tree, .ok ())
      | .error (.system .noEntry) =>
        match Path.parent? path with
        | none => (tree, .error (.custom .other "failed to create whole tree"))
        | some parent =>
          match makeDirsWithin mode fuel tree parent with
          | (tree, .error fault) => (tree, .error fault)
          | (tree, .ok ()) =>
            match tree.makeDir mode path with
            | .ok tree => (tree, .ok ())
            | .error fault =>
              if tree.isDirectory path then (tree, .ok ()) else (tree, .error fault)
      | .error fault => if tree.isDirectory path then (tree, .ok ()) else (tree, .error fault)

def makeDirs (tree : FileTree) (mode : Nat) (path : String) : FileTree × Except IoFault Unit :=
  makeDirsWithin mode (path.length + 1) tree path

/-- Opens a file to write it from its start, and makes or empties it. -/
def openToWrite (tree : FileTree) (mode : Nat) (path : String) :
    Except IoFault (FileTree × Place) := do
  match ← tree.last path with
  | none =>
    let (_, _) ← tree.find path
    throw (.system .isDirectory)
  | some (_, true) => throw (.system .isDirectory)
  | some (place, false) =>
    match tree.entry place with
    | none => pure (tree.set place (.file mode []), place)
    | some (.file kept _) => pure (tree.set place (.file kept []), place)
    | some (.device _) => pure (tree, place)
    | some (.dir _) => throw (.system .isDirectory)

/-- Writes octets at the end of what a place holds. -/
def append (tree : FileTree) (place : Place) (bytes : Bytes) : FileTree × Except IoFault Unit :=
  match tree.entry place with
  | some (.file mode content) => (tree.set place (.file mode (content ++ bytes)), .ok ())
  | some (.device true) => (tree, if bytes = [] then .ok () else .error (.system .noSpace))
  | _ => (tree, .ok ())

def read (tree : FileTree) (path : String) : Except IoFault Bytes := do
  let (_, entry) ← tree.find path
  match entry with
  | .file _ content => pure content
  | .device _ => pure []
  | .dir _ => throw (.system .isDirectory)

/-- The entry at a path, if it can be reached. -/
def stat? (tree : FileTree) (path : String) : Option Entry :=
  match tree.find path with
  | .ok (_, entry) => some entry
  | .error _ => none

end FileTree

end Templating
