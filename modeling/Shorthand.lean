import Shorthand.Main
import Shorthand.Server
import Shorthand.Session
import Shorthand.Proofs.Text.Lines
import Shorthand.Proofs.Text.Offsets
import Shorthand.Proofs.Text.Units
import Shorthand.Proofs.Text.Percent
import Shorthand.Proofs.Uri.FilePath
import Shorthand.Proofs.Text.Names
import Shorthand.Proofs.Value.Table
import Shorthand.Proofs.Routing.Validation
import Shorthand.Proofs.Routing.Names
import Shorthand.Proofs.Expansion.Snippet
import Shorthand.Proofs.Expansion.RoundTrip
import Shorthand.Proofs.Extraction.Backward
import Shorthand.Proofs.Extraction.Cursor
import Shorthand.Proofs.Extraction.Blank
import Shorthand.Proofs.Log.Handlers
import Shorthand.Proofs.Log.Delivery
import Shorthand.Proofs.Completion.Containment
import Shorthand.Proofs.Completion.Attempt
import Shorthand.Proofs.Completion.Independence
import Shorthand.Proofs.Document.Edit
import Shorthand.Proofs.Store.Cache
import Shorthand.Proofs.Store.Step
import Shorthand.Proofs.Store.History
import Shorthand.Proofs.Store.Settlement
import Shorthand.Proofs.Store.SingleFlight
import Shorthand.Proofs.Store.Closing
import Shorthand.Proofs.Store.Waiting
import Shorthand.Proofs.Store.Cancellation
import Shorthand.Proofs.Store.Rank
import Shorthand.Proofs.Store.Reduction
import Shorthand.Proofs.Store.Isolation
import Shorthand.Proofs.Store.Default
import Shorthand.Proofs.Config.Precedence
import Shorthand.Proofs.Session.Run
import Shorthand.Proofs.Session.Waiting
import Shorthand.Proofs.Session.Resolution
import Shorthand.Proofs.Session.Containment
import Shorthand.Proofs.Session.Documents
import Shorthand.Proofs.Session.Agreement
import Shorthand.Proofs.Document.PastEnd
import Shorthand.Proofs.Session.Introduction
import Shorthand.Proofs.Session.Level
import Shorthand.Proofs.Config.Loading
