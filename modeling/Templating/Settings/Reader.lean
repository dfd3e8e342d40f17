import Templating.File.Tree
import Templating.Settings
import Templating.Yaml.Kind
import Templating.Yaml.Reader

/-! Reading settings from YAML. The first fault in the order of the text counts; a document that goes
wrong further on is rejected only if all before that place is in order. Settings that are read are
valid. -/

namespace Templating.Settings

open Yaml (Node Document)

abbrev Reading (α : Type) := (path : String) → Node → Except SettingsFault α

def unexpected (path : String) (node : Node) (expected : String) : SettingsFault :=
  .shape path ("invalid type: " ++ node.kind.describe ++ ", expected " ++ expected)

def ticked (name : String) : String := "\x60" ++ name ++ "\x60"

def oneOf (names : List String) : String :=
  match names with
  | [a, b] => ticked a ++ " or " ++ ticked b
  | names => "one of " ++ Text.commaSeparated (names.map ticked)

def entryPath (path key : String) : String := if path = "" then key else path ++ "." ++ key

def itemPath (path : String) (index : Nat) : String := path ++ "[" ++ toString index ++ "]"

/-- Reads a text, which a scalar is however it is spelled. -/
def readText : Reading String := fun path node =>
  match node with
  | .broken => .error .notYaml
  | .scalar text _ => .ok text
  | node => .error (unexpected path node "a string")

def readBool : Reading Bool := fun path node =>
  match node with
  | .broken => .error .notYaml
  | node =>
    match node.kind with
    | .bool value => .ok value
    | _ => .error (unexpected path node "a boolean")

def readEngine : Reading Engine := fun path node =>
  match node with
  | .broken => .error .notYaml
  | .scalar text _ =>
    match Engine.ofName? text with
    | some engine => .ok engine
    | none => .error (.shape path ("unknown variant " ++ ticked text ++ ", expected " ++
        oneOf (Engine.all.map Engine.name)))
  | node => .error (unexpected path node "a YAML tag starting with '!'")

/-- Reads the name of an engine, or null. -/
def readDefault : Reading (Option Engine) := fun path node =>
  match node with
  | .scalar text true =>
    if Yaml.isNull text then .ok none else some <$> readEngine path node
  | node => some <$> readEngine path node

def readItems (read : Reading α) (path : String) (index : Nat) :
    List Node → Except SettingsFault (List α)
  | [] => .ok []
  | item :: rest => do
    let value ← read (itemPath path index) item
    return value :: (← readItems read path (index + 1) rest)

/-- Reads a list; one that is left out is empty. -/
def readList (read : Reading α) : Reading (List α) := fun path node =>
  match node with
  | .broken => .error .notYaml
  | .list items complete => do
    let values ← readItems read path 0 items
    if complete then return values else throw .notYaml
  | .scalar "" true => .ok []
  | node => .error (unexpected path node "a sequence")

/-- Reads a list, or null as an empty one. -/
def readListOrNull (read : Reading α) : Reading (List α) := fun path node =>
  match node with
  | .scalar text true => if Yaml.isNull text then .ok [] else readList read path node
  | node => readList read path node

def fill (path name : String) (place : Option α) (value : Except SettingsFault α) :
    Except SettingsFault (Option α) :=
  match place with
  | some _ => .error (.shape path ("duplicate field " ++ ticked name))
  | none => some <$> value

/-- The value of a place that must not stay free. -/
def filled (path name : String) (place : Option α) : Except SettingsFault α :=
  match place with
  | some value => .ok value
  | none => .error (.shape path ("missing field " ++ ticked name))

/-- A name that no entry of a map may have. -/
def unknownField (path name : String) (names : List String) : SettingsFault :=
  .shape path ("unknown field " ++ ticked name ++ ", expected " ++ oneOf names)

/-- Reads the key of an entry, a name however it is spelled. -/
def readName : Reading String := fun path node =>
  match node with
  | .broken => .error .notYaml
  | .scalar text _ => .ok text
  | node => .error (unexpected path node "field identifier")

def readEntries (readEntry : σ → String → Node → Except SettingsFault σ) (start : σ)
    (expected : String) : Reading σ := fun path node =>
  match node with
  | .broken => .error .notYaml
  | .map entries complete => do
    let state ← entries.foldlM (fun state (key, value) => do
      readEntry state (← readName path key) value) start
    if complete then return state else throw .notYaml
  | .scalar "" true => .ok start
  | node => .error (unexpected path node expected)

/-- What has been read of a rule. -/
structure RuleDraft where
  engine? : Option Engine
  suffixes? : Option (List String)

def readRuleEntry (path : String) (draft : RuleDraft) :
    String → Node → Except SettingsFault RuleDraft
  | "engine", node => do
    let engine? ← fill path "engine" draft.engine? (readEngine (entryPath path "engine") node)
    return { draft with engine? }
  | "suffixes", node => do
    let suffixes? ← fill path "suffixes" draft.suffixes?
      (readList readText (entryPath path "suffixes") node)
    return { draft with suffixes? }
  | name, _ => throw (unknownField path name ["engine", "suffixes"])

def readRule : Reading Rule := fun path node => do
  let draft ← readEntries (readRuleEntry path) ⟨none, none⟩ "struct MatcherConfig" path node
  let engine ← filled path "engine" draft.engine?
  return ⟨engine, ← filled path "suffixes" draft.suffixes?⟩

/-- What has been read of settings. -/
structure Draft where
  default? : Option (Option Engine)
  rules? : Option (List Rule)
  standard? : Option Bool

def readEntry (draft : Draft) : String → Node → Except SettingsFault Draft
  | "default", node => do
    let default? ← fill "" "default" draft.default? (readDefault "default" node)
    return { draft with default? }
  | "matchers", node => do
    let rules? ← fill "" "matchers" draft.rules? (readListOrNull readRule "matchers" node)
    return { draft with rules? }
  | "stdlib", node => do
    let standard? ← fill "" "stdlib" draft.standard? (readBool "stdlib" node)
    return { draft with standard? }
  | name, _ => throw (unknownField "" name ["default", "matchers", "stdlib"])

/-- The settings of a document. What is left out has its default. -/
def ofDocument (document : Document) : Except SettingsFault Settings := do
  let draft ← readEntries readEntry ⟨none, none, none⟩ "struct FactoryConfig" "" document.root
  if document.complete then
    return ⟨draft.default?.getD none, draft.rules?.getD [], draft.standard?.getD false⟩
  else throw .notYaml

def parse (text : String) : Except SettingsFault Settings := do
  let settings ← ofDocument (Yaml.read text)
  settings.validate
  return settings

def load (tree : FileTree) (path : String) : Except Fault Settings :=
  match tree.read path with
  | .error cause => .error (.read path cause)
  | .ok bytes =>
    match Utf8.decode bytes with
    | .error _ => .error (.read path .notTextFile)
    | .ok text => (parse text).mapError .settings

end Templating.Settings
