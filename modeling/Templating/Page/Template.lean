import Templating.Page.Reader
import Templating.Page.Render
import Templating.Parser

/-! Pages as templates, with and without escaping of what they print. -/

namespace Templating.Page

/-- The fault of a page whose output is refused. It does not say why. -/
def refusal (_ : IoFault) : Fault := PageFault.toFault ⟨.writeFailure, none, none⟩

def executor (setting : Setting) (page : List Stmt) : Executor :=
  .ofDataRuns (run setting page) refusal

def compile (escapes : Bool) (label : String) (functions : Registry) (source : String) :
    Except Fault Template :=
  match parse source with
  | .ok page => .ok (.ready (executor ⟨label, escapes, functions⟩ page))
  | .error rejection =>
    .error (PageFault.toFault ⟨rejection.kind, none, some ⟨label, rejection.line⟩⟩)

def textParser : Parser := ⟨"text", compile false⟩

def htmlParser : Parser := ⟨"html", compile true⟩

end Templating.Page
