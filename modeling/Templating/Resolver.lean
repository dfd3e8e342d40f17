import Templating.File.Tree
import Templating.Parser

/-! Resolvers: a label, functions, matchers and parsers that turn names and sources into templates.
Resolution never fails at once: a fault is kept in the template. -/

namespace Templating

/-- A use of a matcher, a parser or a reader. -/
inductive Consult where
  /-- A matcher was asked about a file name. -/
  | asked (matcher : Matcher) (fileName : String)
  /-- A parser was called. -/
  | parsed (parser : Parser) (label : String) (functions : Registry) (source : String)
  /-- A path was read, with a reader or, where there is none, from the file tree. -/
  | read (reader? : Option Reader) (path : String)

/-- An answer and the uses that led to it, in order. -/
@[ext] structure Consulted (α : Type) where
  answer : α
  trace : List Consult

namespace Consulted

/-- An answer that takes no use. -/
def pure (answer : α) : Consulted α := ⟨answer, []⟩

def bind (first : Consulted α) (next : α → Consulted β) : Consulted β :=
  ⟨(next first.answer).answer, first.trace ++ (next first.answer).trace⟩

instance : Monad Consulted where
  pure := pure
  bind := bind

@[simp] theorem answer_pure (answer : α) : (Pure.pure answer : Consulted α).answer = answer := rfl

@[simp] theorem trace_pure (answer : α) : (Pure.pure answer : Consulted α).trace = [] := rfl

@[simp] theorem answer_bind (first : Consulted α) (next : α → Consulted β) :
    (first >>= next).answer = (next first.answer).answer := rfl

@[simp] theorem trace_bind (first : Consulted α) (next : α → Consulted β) :
    (first >>= next).trace = first.trace ++ (next first.answer).trace := rfl

end Consulted

def Matcher.ask (matcher : Matcher) (fileName : String) : Consulted (Option Parser) :=
  ⟨matcher.select fileName, [.asked matcher fileName]⟩

def Parser.call (parser : Parser) (label : String) (functions : Registry) (source : String) :
    Consulted (Except Fault Template) :=
  ⟨parser.parse label functions source, [.parsed parser label functions source]⟩

/-- Asks matchers about a file name, one after another, up to the first that accepts it. -/
def Matcher.askAll (fileName : String) : List Matcher → Consulted (Option Parser)
  | [] => return none
  | matcher :: rest => do
    match ← matcher.ask fileName with
    | some parser => return some parser
    | none => askAll fileName rest

/-- How templates are resolved. -/
structure Resolver where
  label : String
  functions : Registry
  /-- Asked in order; the first that accepts a name wins. -/
  matchers : List Matcher
  /-- The parser for a source that no matcher claims. -/
  default? : Option Parser
  /-- What loads sources; the file tree where there is none. -/
  reader? : Option Reader

abbrev Resolution := Consulted Template

def Resolution.template (resolution : Resolution) : Template := resolution.answer

namespace Resolver

/-- The resolver that reads files and knows no functions, matchers and parsers. -/
def new (label : String) : Resolver := ⟨label, Registry.empty, [], none, none⟩

def addFunction (resolver : Resolver) (name : String) (f : Function) : Resolver :=
  { resolver with functions := resolver.functions.insert name f }

/-- Adds the functions of registries, of which later ones win. -/
def addFunctions (resolver : Resolver) (registries : List Registry) : Resolver :=
  { resolver with functions := resolver.functions.mergeAll registries }

def addMatcher (resolver : Resolver) (matcher : Matcher) : Resolver :=
  { resolver with matchers := resolver.matchers ++ [matcher] }

def addMatchers (resolver : Resolver) (matchers : List Matcher) : Resolver :=
  { resolver with matchers := resolver.matchers ++ matchers }

def withDefault (resolver : Resolver) (parser : Parser) : Resolver :=
  { resolver with default? := some parser }

def withReader (resolver : Resolver) (reader : Reader) : Resolver :=
  { resolver with reader? := some reader }

/-- Reads from the file tree again. -/
def withFiles (resolver : Resolver) : Resolver := { resolver with reader? := none }

/-- The parser of the first matcher that accepts a name. -/
def select (resolver : Resolver) (fileName : String) : Consulted (Option Parser) :=
  Matcher.askAll fileName resolver.matchers

/-- Calls a parser; its fault is kept, in one layer, as a fault of parsing. -/
def parseWith (resolver : Resolver) (parser : Parser) (source : String) : Resolution := do
  match ← parser.call resolver.label resolver.functions source with
  | .ok template => return template
  | .error fault => return .failed (.parse fault)

def fromSource (resolver : Resolver) (source : String) : Resolution :=
  match resolver.default? with
  | some parser => resolver.parseWith parser source
  | none => return .failed (.parse .noDefaultParser)

/-- Resolves a source under a name that the matchers are asked about. -/
def fromNamed (resolver : Resolver) (fileName source : String) : Resolution := do
  match ← resolver.select fileName with
  | some parser => resolver.parseWith parser source
  | none => resolver.fromSource source

/-- The octets at a path, from the reader or, where there is none, from the file tree. -/
def content (resolver : Resolver) (tree : FileTree) (path : String) : Except IoFault Bytes :=
  match resolver.reader? with
  | some reader => reader.read path
  | none => tree.read path

/-- Octets as the text of a source. -/
def decodeSource (bytes : Bytes) : Except IoFault String :=
  match Utf8.decode bytes with
  | .ok text => .ok text
  | .error defect => .error (.notText bytes defect)

def load (resolver : Resolver) (tree : FileTree) (path : String) :
    Consulted (Except IoFault String) :=
  ⟨resolver.content tree path >>= decodeSource, [.read resolver.reader? path]⟩

/-- Resolves the source at a path. A failure to read it is kept in the template, and no matcher or
parser is asked. -/
def fromFile (resolver : Resolver) (tree : FileTree) (path : String) : Resolution := do
  match ← resolver.load tree path with
  | .error cause => return .failed (.read path cause)
  | .ok source => resolver.fromNamed path source

/-- The parts of a resolver, for a reader who looks into it. -/
def describe (resolver : Resolver) : String :=
  "Factory \x7b name: " ++ Text.quoted resolver.label ++ ", funcs: " ++
    resolver.functions.describe ++ ", matchers: " ++ toString resolver.matchers.length ++
    ", default_parser: " ++ (if resolver.default?.isSome then "true" else "false") ++ " \x7d"

end Resolver

end Templating
