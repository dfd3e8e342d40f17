import Templating.Parser
import Templating.Pattern.Reader

/-! Patterns as templates: the data of the context supplies the arguments. -/

namespace Templating.Pattern

/-- The template of a pattern. It writes its whole text at once. -/
def executor (pattern : Pattern) : Executor :=
  .ofDataRuns (fun data _ => .text (pattern.format (arguments data))) Fault.stream

/-- The parser of patterns. They call no functions. -/
def parser : Parser where
  name := "format"
  parse _ _ source :=
    match parse source with
    | .ok pattern => .ok (.ready pattern.executor)
    | .error cause => .error (.source cause)

end Templating.Pattern
