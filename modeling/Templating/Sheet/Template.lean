import Templating.Parser
import Templating.Sheet.Reader
import Templating.Sheet.Render

/-! Sheets as templates. What they print is not escaped. -/

namespace Templating.Sheet

/-- The fault of a sheet whose output is refused: one of its execution, as any other. -/
def refusal (label : String) (_ : IoFault) : Fault := .execute (.sheet label none)

def executor (label : String) (functions : Registry) (sheet : List Stmt) : Executor :=
  .ofDataRuns (run label functions sheet) (refusal label)

def parser : Parser where
  name := "sheet"
  parse label functions source :=
    match parse? source with
    | some sheet => .ok (.ready (executor label functions sheet))
    | none => .error (.source (.sheet label))

end Templating.Sheet
