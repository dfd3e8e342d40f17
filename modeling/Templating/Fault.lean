import Templating.Text.Quoted
import Templating.Text.Utf8

/-! What can go wrong between a template's source and its output, as causes, and the wording of
each. `Fault` is the one type that every operation fails with. -/

namespace Templating

/-- The class of a failed input or output operation. -/
inductive IoKind where
  | notFound
  | permissionDenied
  | brokenPipe
  | invalidData
  | unexpectedEof
  | isADirectory
  | notADirectory
  | alreadyExists
  | storageFull
  | invalidFilename
  | invalidInput
  | other
  deriving DecidableEq, Repr

def IoKind.name : IoKind → String
  | notFound => "NotFound"
  | permissionDenied => "PermissionDenied"
  | brokenPipe => "BrokenPipe"
  | invalidData => "InvalidData"
  | unexpectedEof => "UnexpectedEof"
  | isADirectory => "IsADirectory"
  | notADirectory => "NotADirectory"
  | alreadyExists => "AlreadyExists"
  | storageFull => "StorageFull"
  | invalidFilename => "InvalidFilename"
  | invalidInput => "InvalidInput"
  | other => "Other"

/-- The ways in which a system call on files fails. -/
inductive SystemFault where
  | noEntry
  | exists
  | notDirectory
  | isDirectory
  | noSpace
  | nameTooLong
  deriving DecidableEq, Repr

namespace SystemFault

def code : SystemFault → Nat
  | noEntry => 2
  | «exists» => 17
  | notDirectory => 20
  | isDirectory => 21
  | noSpace => 28
  | nameTooLong => 36

/-- The wording of a failure, without its number. -/
def text : SystemFault → String
  | noEntry => "No such file or directory"
  | «exists» => "File exists"
  | notDirectory => "Not a directory"
  | isDirectory => "Is a directory"
  | noSpace => "No space left on device"
  | nameTooLong => "File name too long"

def kind : SystemFault → IoKind
  | noEntry => .notFound
  | «exists» => .alreadyExists
  | notDirectory => .notADirectory
  | isDirectory => .isADirectory
  | noSpace => .storageFull
  | nameTooLong => .invalidFilename

end SystemFault

/-- A failed input or output operation. -/
inductive IoFault where
  /-- A failure that a reader or writer words itself. -/
  | custom (kind : IoKind) (text : String)
  | system (cause : SystemFault)
  /-- Octets that should have been text. -/
  | notText (bytes : Bytes) (defect : Utf8.Defect)
  /-- A whole file that should have been text. -/
  | notTextFile
  /-- A path with a NUL character. -/
  | nulInPath
  deriving DecidableEq, Repr

namespace IoFault

def kind : IoFault → IoKind
  | custom kind _ => kind
  | system cause => cause.kind
  | notText _ _ => .invalidData
  | notTextFile => .invalidData
  | nulInPath => .invalidInput

def message : IoFault → String
  | custom _ text => text
  | system cause => cause.text ++ " (os error " ++ toString cause.code ++ ")"
  | notText _ defect => defect.message
  | notTextFile => "stream did not contain valid UTF-8"
  | nulInPath => "file name contained an unexpected NUL byte"

/-- The parts of a failure, for a reader who looks for its cause. -/
def describe : IoFault → String
  | custom kind text =>
    "Custom \x7b kind: " ++ kind.name ++ ", error: " ++ Text.quoted text ++ " \x7d"
  | system cause =>
    "Os \x7b code: " ++ toString cause.code ++ ", kind: " ++ cause.kind.name ++ ", message: " ++
      Text.quoted cause.text ++ " \x7d"
  | notText bytes defect =>
    let length := match defect with
      | .incomplete _ => "None"
      | .invalid length _ => "Some(" ++ toString length ++ ")"
    "Custom \x7b kind: InvalidData, error: FromUtf8Error \x7b bytes: [" ++
      Text.commaSeparated (bytes.map fun octet => toString octet.toNat) ++
      "], error: Utf8Error \x7b valid_up_to: " ++ toString defect.index ++ ", error_len: " ++
      length ++ " \x7d \x7d \x7d"
  | notTextFile =>
    "Error \x7b kind: InvalidData, message: " ++ Text.quoted notTextFile.message ++ " \x7d"
  | nulInPath =>
    "Error \x7b kind: InvalidInput, message: " ++ Text.quoted nulInPath.message ++ " \x7d"

end IoFault

/-- The ways in which a page fails to parse or to render. -/
inductive PageFault.Kind where
  | syntaxError
  | badEscape
  | undefinedValue
  | invalidOperation
  | unknownFilter
  | unknownTest
  | unknownFunction
  | unknownMethod
  | tooManyArguments
  | missingArgument
  | cannotUnpack
  | badSerialization
  | unknownBlock
  | templateNotFound
  | badInclude
  | writeFailure
  deriving DecidableEq, Repr

def PageFault.Kind.text : PageFault.Kind → String
  | syntaxError => "syntax error"
  | badEscape => "bad string escape"
  | undefinedValue => "undefined value"
  | invalidOperation => "invalid operation"
  | unknownFilter => "unknown filter"
  | unknownTest => "unknown test"
  | unknownFunction => "unknown function"
  | unknownMethod => "unknown method"
  | tooManyArguments => "too many arguments"
  | missingArgument => "missing argument"
  | cannotUnpack => "cannot unpack"
  | badSerialization => "could not serialize to value"
  | unknownBlock => "unknown block"
  | templateNotFound => "template not found"
  | badInclude => "could not render include"
  | writeFailure => "failed to write output"

/-- A function of the registry that failed. -/
structure FunctionFault where
  name : String
  message : String
  deriving DecidableEq, Repr

def FunctionFault.text (fault : FunctionFault) : String :=
  "function \x60" ++ fault.name ++ "\x60 failed: " ++ fault.message

/-- A line of a page. -/
structure PageFault.Place where
  page : String
  line : Nat
  deriving DecidableEq, Repr

/-- A fault in a page: its kind, the registry function that caused it, if one did, and where it arose,
which is known of every fault but a refused write. -/
structure PageFault where
  kind : PageFault.Kind
  function? : Option FunctionFault
  place? : Option PageFault.Place
  deriving DecidableEq, Repr

def PageFault.message (fault : PageFault) : String :=
  fault.kind.text ++
    (match fault.function? with
      | some function => ": " ++ function.text
      | none => "") ++
    match fault.place? with
    | some place => " (in " ++ place.page ++ ":" ++ toString place.line ++ ")"
    | none => ""

/-- Why a template's source is rejected. -/
inductive SourceFault where
  /-- A reason worded by the parser. -/
  | text (reason : String)
  /-- A placeholder opened `offset` octets after the start is never closed. -/
  | unclosedPlaceholder (offset : Nat)
  /-- A placeholder's body is no index. -/
  | invalidPlaceholder (body : String)
  | page (fault : PageFault)
  | sheet (name : String)
  deriving DecidableEq, Repr

def SourceFault.message : SourceFault → String
  | text reason => reason
  | unclosedPlaceholder offset => "unclosed placeholder at byte " ++ toString offset
  | invalidPlaceholder body => "invalid placeholder \x60\x7b" ++ body ++ "\x7d\x60"
  | page fault => fault.message
  | sheet name => "Failed to parse '" ++ name ++ "'"

/-- Why a parsed template fails to render. -/
inductive ExecutionFault where
  /-- A reason worded by the template. -/
  | text (reason : String)
  | page (fault : PageFault)
  | sheet (name : String) (function? : Option FunctionFault)
  deriving DecidableEq, Repr

def ExecutionFault.message : ExecutionFault → String
  | text reason => reason
  | page fault => fault.message
  | sheet name function? =>
    "Failed to render '" ++ name ++ "'" ++
      match function? with
      | some function => ": " ++ function.text
      | none => ""

/-- Why settings are rejected. -/
inductive SettingsFault where
  /-- A reason worded by the caller. -/
  | text (reason : String)
  /-- The text is no YAML that can be read. -/
  | notYaml
  /-- The text is YAML of another shape; `path` leads to the offending value. -/
  | shape (path reason : String)
  | noSuffixes (index : Nat) (engine : String)
  | emptySuffix (index : Nat) (engine : String)
  deriving DecidableEq, Repr

def SettingsFault.message : SettingsFault → String
  | text reason => reason
  | notYaml => "<yaml>"
  | shape path reason => if path = "" then reason else path ++ ": " ++ reason
  | noSuffixes index engine =>
    "matcher " ++ toString index ++ " (" ++ engine ++ ") has no suffixes"
  | emptySuffix index engine =>
    "matcher " ++ toString index ++ " (" ++ engine ++ ") has an empty suffix"

/-- A failed operation on templates. -/
inductive Fault where
  /-- The source at a path could not be read. -/
  | read (path : String) (cause : IoFault)
  /-- The selected parser failed. -/
  | parse (cause : Fault)
  /-- The source was rejected. -/
  | source (cause : SourceFault)
  /-- No matcher accepted the name and there is no parser for that case. -/
  | noDefaultParser
  /-- Execution failed. -/
  | execute (cause : ExecutionFault)
  /-- The template asked to stop. -/
  | aborted (reason : String)
  /-- A stream refused output. -/
  | stream (cause : IoFault)
  | createDir (path : String) (cause : IoFault)
  | openFile (path : String) (cause : IoFault)
  | writeFile (path : String) (cause : IoFault)
  | closeFile (path : String) (cause : IoFault)
  /-- The data has no JSON form. -/
  | serialize (reason : String)
  /-- The output is no text. -/
  | notText (reason : String)
  /-- The settings were rejected. -/
  | settings (cause : SettingsFault)
  deriving DecidableEq, Repr

/-- The fault that a fault in a page is: a problem of syntax is the source's, a refused write is the
stream's, and any other is one of the execution. -/
def PageFault.toFault (fault : PageFault) : Fault :=
  match fault.kind with
  | .syntaxError => .source (.page fault)
  | .badEscape => .source (.page fault)
  | .writeFailure => .stream (.custom .other fault.message)
  | _ => .execute (.page fault)

namespace Fault

def isAborted : Fault → Bool
  | aborted _ => true
  | _ => false

def message : Fault → String
  | read path cause => "error reading template: " ++ path ++ ": " ++ cause.message
  | parse cause => "error parsing template: " ++ cause.message
  | source cause => "syntax error: " ++ cause.message
  | noDefaultParser => "no default parser configured"
  | execute cause => "template error: " ++ cause.message
  | aborted reason => reason
  | stream cause => "I/O error: " ++ cause.message
  | createDir path cause =>
    "error creating output directory(\x60" ++ path ++ "\x60): " ++ cause.message
  | openFile path cause => "error opening file \x60" ++ path ++ "\x60: " ++ cause.message
  | writeFile path cause => "error writing file \x60" ++ path ++ "\x60: " ++ cause.message
  | closeFile path cause => "error closing file \x60" ++ path ++ "\x60: " ++ cause.message
  | serialize reason => "error serializing render data: " ++ reason
  | notText reason => "rendered output is not valid UTF-8: " ++ reason
  | settings cause => "configuration error: " ++ cause.message

def kindName : Fault → String
  | read _ _ => "Read"
  | parse cause => "Parse(" ++ cause.kindName ++ ")"
  | source _ => "Syntax"
  | noDefaultParser => "NoDefaultParser"
  | execute _ => "Execute"
  | aborted _ => "Aborted"
  | stream _ => "Io"
  | createDir _ _ => "CreateDir"
  | openFile _ _ => "OpenFile"
  | writeFile _ _ => "WriteFile"
  | closeFile _ _ => "CloseFile"
  | serialize _ => "Serialize"
  | notText _ => "Utf8"
  | settings _ => "Config"

/-- The path that a fault is about and the failed operation on it. -/
def target? : Fault → Option (String × IoFault)
  | read path cause => some (path, cause)
  | createDir path cause => some (path, cause)
  | openFile path cause => some (path, cause)
  | writeFile path cause => some (path, cause)
  | closeFile path cause => some (path, cause)
  | _ => none

/-- A part of a description that names a path and a failed operation. -/
def describeTarget (name path : String) (cause : IoFault) : String :=
  name ++ " \x7b path: " ++ Text.quoted path ++ ", source: " ++ cause.describe ++ " \x7d"

/-- The parts of a fault, for a reader who looks for its cause. -/
def describe : Fault → String
  | read path cause => describeTarget "Read" path cause
  | parse cause => "Parse(" ++ cause.describe ++ ")"
  | source cause => "Syntax(" ++ Text.quoted cause.message ++ ")"
  | noDefaultParser => "NoDefaultParser"
  | execute cause => "Execute(" ++ Text.quoted cause.message ++ ")"
  | aborted reason => "Aborted(" ++ Text.quoted reason ++ ")"
  | stream cause => "Io(" ++ cause.describe ++ ")"
  | createDir path cause => describeTarget "CreateDir" path cause
  | openFile path cause => describeTarget "OpenFile" path cause
  | writeFile path cause => describeTarget "WriteFile" path cause
  | closeFile path cause => describeTarget "CloseFile" path cause
  | serialize reason => "Serialize(" ++ Text.quoted reason ++ ")"
  | notText reason => "Utf8(" ++ Text.quoted reason ++ ")"
  | settings cause => "Config(" ++ Text.quoted cause.message ++ ")"

end Fault

end Templating
