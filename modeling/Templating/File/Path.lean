/-! Paths as text: their pieces between slashes, their components, and the path of the directory
that holds what a path leads to. -/

namespace Templating.Path

/-- A step of a path. -/
inductive Component where
  | root
  | current
  | parent
  | normal (name : String)
  deriving DecidableEq, Repr

/-- The texts between the slashes of a path; a path without a slash is one piece. -/
def split : List Char → List (List Char)
  | [] => [[]]
  | c :: rest =>
    if c = '/' then [] :: split rest
    else
      match split rest with
      | piece :: pieces => (c :: piece) :: pieces
      | [] => [[c]]

/-- Whether a piece is no step: nothing between two slashes, or a dot. -/
def isVoid (piece : List Char) : Bool := piece == [] || piece == ['.']

def component (piece : List Char) : Component :=
  if piece = ['.', '.'] then .parent else .normal (String.ofList piece)

/-- A path apart: what stands before its steps, as text and as components, and the pieces of its
steps. The start is a slash, a dot that stands first, or nothing. -/
def parts (path : String) : List Char × List Component × List (List Char) :=
  match split path.toList with
  | [] :: piece :: pieces => (['/'], [.root], piece :: pieces)
  | ['.'] :: pieces => (['.'], [.current], pieces)
  | pieces => ([], [], pieces)

/-- The steps of a path. Doubled slashes and dots after the start count for nothing. -/
def components (path : String) : List Component :=
  let (_, start, pieces) := parts path
  start ++ (pieces.filter (!isVoid ·)).map component

def same (path other : String) : Bool := components path == components other

/-- Pieces without those at the end that are no steps. -/
def dropVoidEnd (pieces : List (List Char)) : List (List Char) :=
  (pieces.reverse.dropWhile isVoid).reverse

def join (start : List Char) (pieces : List (List Char)) : String :=
  let body := ['/'].intercalate pieces
  String.ofList (if start = ['.'] ∧ pieces ≠ [] then start ++ '/' :: body else start ++ body)

/-- The path of the directory that holds what a path leads to: the path without its last step, as
it is written. A path without steps has none. -/
def parent? (path : String) : Option String :=
  let (start, _, pieces) := parts path
  match dropVoidEnd pieces with
  | [] => if start = ['.'] then some "" else none
  | piece :: more => some (join start (dropVoidEnd (piece :: more).dropLast))

/-- The number of octets of a path. -/
def octets (path : String) : Nat := path.utf8ByteSize

end Templating.Path
