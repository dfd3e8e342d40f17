import Templating.Json.Basic
import Templating.Signal

/-! Contexts: the data that a render shows to its template, and the signal that the template may
mark. -/

namespace Templating

/-- What a render runs with. -/
structure Context where
  /-- The data in JSON form, or why it has none. -/
  data : Except Fault Json
  /-- The signal bound to the template's `abort`. -/
  signal? : Option Signal

namespace Context

def ofData (data : Json) : Context := ⟨.ok data, none⟩

def abortable (data : Json) : Context := ⟨.ok data, some Signal.clear⟩

/-- The context without data. -/
def unit : Context := ofData .null

/-- The fault of data whose keys are no strings. -/
def badKeys : Fault := .serialize "key must be a string"

def aborted? (context : Context) : Option Fault := context.signal?.bind Signal.fault?

end Context

end Templating
