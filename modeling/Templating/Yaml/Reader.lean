import Templating.Yaml.Basic
import Templating.Yaml.Cutting

/-! Reading YAML documents from their tokens: lists and maps in blocks and between brackets, scalars,
and the marks between documents. Reading goes wrong where the tokens end too early. -/

namespace Templating.Yaml

/-- Something that is read, and the tokens after it unless reading goes wrong. -/
abbrev Reading (α : Type) := α × Option (List Token)

/-- The tokens before which a node in a list in a block is left out; the list may have the column of
the key above it. -/
def itemStops (belowKey : Bool) : List Token :=
  if belowKey then [.dash, .key, .value, .blockEnd] else [.dash, .blockEnd]

/-- The tokens before which a node in a map in a block is left out. -/
def entryStops : List Token := [.key, .value, .blockEnd]

/-- The tokens before which a value in a list between brackets is left out. -/
def flowItemStops : List Token := [.comma, .flowListEnd]

/-- The tokens before which a value in a map between brackets is left out. -/
def flowEntryStops : List Token := [.comma, .flowMapEnd]

mutual

/-- Reads a node, in a block or between brackets. The dashes of a list below a key need not be
indented. -/
def node (block belowKey : Bool) : (fuel : Nat) → List Token → Reading Node
  | 0, _ => (.broken, none)
  | fuel + 1, tokens =>
    match tokens with
    | .scalar text plain :: rest => (.scalar text plain, some rest)
    | .flowList :: rest =>
      let (items, rest?) := flowItems fuel rest
      (.list items rest?.isSome, rest?)
    | .flowMap :: rest =>
      let (entries, rest?) := flowEntries fuel rest
      (.map entries rest?.isSome, rest?)
    | .blockList :: rest =>
      if block then
        let (items, rest?) := items false fuel rest
        (.list items rest?.isSome, rest?)
      else (.broken, none)
    | .blockMap :: rest =>
      if block then
        let (entries, rest?) := entries fuel rest
        (.map entries rest?.isSome, rest?)
      else (.broken, none)
    | .dash :: rest =>
      if belowKey then
        let (items, rest?) := items true fuel (.dash :: rest)
        (.list items rest?.isSome, rest?)
      else (.broken, none)
    | _ => (.broken, none)
termination_by structural fuel => fuel

/-- Reads a node that is left out before some tokens. -/
def nodeUnless (stops : List Token) (block belowKey : Bool) :
    (fuel : Nat) → List Token → Reading Node
  | 0, _ => (.broken, none)
  | fuel + 1, tokens =>
    match tokens with
    | [] => (.broken, none)
    | token :: rest =>
      if stops.contains token then (.empty, some (token :: rest))
      else node block belowKey fuel (token :: rest)
termination_by structural fuel => fuel

/-- Reads a colon and the node after it; both may be left out. -/
def value (stops : List Token) (block : Bool) : (fuel : Nat) → List Token → Reading Node
  | 0, _ => (.broken, none)
  | fuel + 1, tokens =>
    match tokens with
    | [] => (.broken, none)
    | .value :: rest => nodeUnless stops block block fuel rest
    | tokens => (.empty, some tokens)
termination_by structural fuel => fuel

/-- Reads the items of a list in a block. A list with the column of the key above it has no token for
its end. -/
def items (belowKey : Bool) : (fuel : Nat) → List Token → Reading (List Node)
  | 0, _ => ([], none)
  | fuel + 1, tokens =>
    match tokens with
    | .dash :: rest =>
      let (item, rest?) := nodeUnless (itemStops belowKey) true false fuel rest
      match rest? with
      | none => ([item], none)
      | some rest =>
        let (items, rest?) := items belowKey fuel rest
        (item :: items, rest?)
    | [] => ([], none)
    | token :: rest =>
      if belowKey then ([], some (token :: rest))
      else if token = .blockEnd then ([], some rest)
      else ([], none)
termination_by structural fuel => fuel

def entries : (fuel : Nat) → List Token → Reading (List (Node × Node))
  | 0, _ => ([], none)
  | fuel + 1, tokens =>
    match tokens with
    | .key :: rest =>
      let (key, rest?) := nodeUnless entryStops true true fuel rest
      match rest? with
      | none => ([(key, .broken)], none)
      | some rest =>
        let (value, rest?) := value entryStops true fuel rest
        match rest? with
        | none => ([(key, value)], none)
        | some rest =>
          let (entries, rest?) := entries fuel rest
          ((key, value) :: entries, rest?)
    | .blockEnd :: rest => ([], some rest)
    | _ => ([], none)
termination_by structural fuel => fuel

/-- Reads the items of a list between brackets from an item or the end on. -/
def flowItems : (fuel : Nat) → List Token → Reading (List Node)
  | 0, _ => ([], none)
  | fuel + 1, tokens =>
    match tokens with
    | .flowListEnd :: rest => ([], some rest)
    | tokens =>
      let (item, rest?) := flowItem fuel tokens
      match rest? with
      | some (.comma :: rest) =>
        let (items, rest?) := flowItems fuel rest
        (item :: items, rest?)
      | some (.flowListEnd :: rest) => ([item], some rest)
      | _ => ([item], none)
termination_by structural fuel => fuel

/-- Reads an item of a list between brackets, which is a map of one entry if it starts with a key. If
the key is left out, the token in its place is passed too. -/
def flowItem : (fuel : Nat) → List Token → Reading Node
  | 0, _ => (.broken, none)
  | fuel + 1, tokens =>
    match tokens with
    | .key :: rest =>
      let (key, rest?) : Reading Node :=
        match rest with
        | .value :: rest => (.empty, some rest)
        | .comma :: rest => (.empty, some rest)
        | .flowListEnd :: rest => (.empty, some rest)
        | rest => node false false fuel rest
      match rest? with
      | none => (.map [(key, .broken)] false, none)
      | some rest =>
        let (value, rest?) := value flowItemStops false fuel rest
        (.map [(key, value)] (rest?.any (!·.isEmpty)), rest?)
    | tokens => node false false fuel tokens
termination_by structural fuel => fuel

/-- Reads the entries of a map between brackets from a key or the end on. -/
def flowEntries : (fuel : Nat) → List Token → Reading (List (Node × Node))
  | 0, _ => ([], none)
  | fuel + 1, tokens =>
    match tokens with
    | .flowMapEnd :: rest => ([], some rest)
    | tokens =>
      let (entry, rest?) := flowEntry fuel tokens
      match rest? with
      | some (.comma :: rest) =>
        let (entries, rest?) := flowEntries fuel rest
        (entry :: entries, rest?)
      | some (.flowMapEnd :: rest) => ([entry], some rest)
      | _ => ([entry], none)
termination_by structural fuel => fuel

/-- Reads an entry of a map between brackets. A node that is no key has an empty value. -/
def flowEntry : (fuel : Nat) → List Token → Reading (Node × Node)
  | 0, _ => ((.broken, .broken), none)
  | fuel + 1, tokens =>
    match tokens with
    | .key :: rest =>
      let (key, rest?) :=
        nodeUnless (.value :: flowEntryStops) false false fuel rest
      match rest? with
      | none => ((key, .broken), none)
      | some rest =>
        let (value, rest?) := value flowEntryStops false fuel rest
        ((key, value), rest?)
    | tokens =>
      let (key, rest?) := node false false fuel tokens
      match rest? with
      | some (token :: rest) => ((key, .empty), some (token :: rest))
      | _ => ((key, .broken), none)
termination_by structural fuel => fuel

end

/-- Reads a node at the start of a document. No more than three readings in each other start at the
same token. -/
def topNode (tokens : List Token) : Reading Node := node true false (4 * tokens.length + 4) tokens

/-- Reads the first document: what it holds is left out in a text without tokens of its own, and may be
left out after a mark. -/
def root : List Token → Reading Node
  | [.textEnd] => (.empty, some [.textEnd])
  | [.documentStart] => (.broken, none)
  | .documentStart :: token :: rest =>
    if [.documentStart, .documentEnd, .textEnd].contains token then (.empty, some (token :: rest))
    else topNode (token :: rest)
  | tokens => topNode tokens

/-- Whether nothing but marks after a document follows it. -/
def isLast (tokens : List Token) : Bool := tokens.dropWhile (· == .documentEnd) == [.textEnd]

def read (source : String) : Document :=
  let (root, rest?) := root (tokens source)
  ⟨root, rest?.any isLast⟩

end Templating.Yaml
