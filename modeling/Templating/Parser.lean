import Templating.Registry
import Templating.Template

/-! Parsers make templates from sources, matchers choose parsers by file name, and readers load
sources. Each carries a name, so that a trace of their use can be read. -/

namespace Templating

/-- A parser: for a label, the functions that the template may call, and a source, it gives a
template or a fault. -/
structure Parser where
  name : String
  parse : (label : String) → Registry → (source : String) → Except Fault Template

/-- A matcher: the parser for a file name, if the matcher accepts the name. -/
structure Matcher where
  name : String
  select : (fileName : String) → Option Parser

/-- A reader: the octets at a path. -/
structure Reader where
  name : String
  read : (path : String) → Except IoFault Bytes

def endsWith (name ending : String) : Bool := ending.toList.isSuffixOf name.toList

namespace Matcher

def accepts (matcher : Matcher) (fileName : String) : Bool := (matcher.select fileName).isSome

/-- The matcher that gives a parser to the names with one of some endings. -/
def ofSuffixes (suffixes : List String) (parser : Parser) : Matcher where
  name := "suffixes"
  select fileName := if suffixes.any (endsWith fileName) then some parser else none

/-- The endings of a matcher, for a reader who looks into it. -/
def describeSuffixes (suffixes : List String) : String :=
  "SuffixMatcher \x7b suffixes: [" ++ Text.commaSeparated (suffixes.map Text.quoted) ++ "] \x7d"

end Matcher

end Templating
