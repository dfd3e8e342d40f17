import Templating.Cache
import Templating.Dialect
import Templating.File.Target
import Templating.Json.Reader
import Templating.Proofs.Cache.Racing
import Templating.Proofs.Cache.Refinement
import Templating.Proofs.Calling.Abort
import Templating.Proofs.File.Save
import Templating.Proofs.File.Streams
import Templating.Proofs.Pattern.Concatenation
import Templating.Proofs.Pattern.Formatting
import Templating.Proofs.Pattern.RoundTrip
import Templating.Proofs.Phase.Phases
import Templating.Proofs.Printing.Data
import Templating.Proofs.Printing.RootScope
import Templating.Proofs.Registry.Union
import Templating.Proofs.Render.Atomicity
import Templating.Proofs.Render.Truncation
import Templating.Proofs.Resolution.Dispatch
import Templating.Proofs.Resolution.Octets
import Templating.Proofs.Resolution.Setup
import Templating.Proofs.Resolution.Suffixes
import Templating.Proofs.Session.Signals
import Templating.Proofs.Settings.Choice
import Templating.Proofs.Settings.Decoding
import Templating.Proofs.Settings.Validity
import Templating.Registry.Edit
import Templating.Settings.Layout
import Templating.Settings.Reader
import Templating.Proofs.Pattern.Spelling
import Templating.Proofs.Printing.PlainText
