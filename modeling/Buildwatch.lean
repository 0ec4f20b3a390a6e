import Buildwatch.Command.Environment
import Buildwatch.Json.Writer
import Buildwatch.Main
import Buildwatch.Proofs.Codec.RoundTrip
import Buildwatch.Proofs.Command.Environment
import Buildwatch.Proofs.Command.Quoted
import Buildwatch.Proofs.CommandLine.Outcome
import Buildwatch.Proofs.Config.Overlay
import Buildwatch.Proofs.Config.Priority
import Buildwatch.Proofs.Diagnostic.Body
import Buildwatch.Proofs.Diagnostic.Excerpt
import Buildwatch.Proofs.Diagnostic.Grammar
import Buildwatch.Proofs.Diagnostic.Indentation
import Buildwatch.Proofs.Diagnostic.LeadingPlace
import Buildwatch.Proofs.Diagnostic.Location
import Buildwatch.Proofs.Diagnostic.MessageLines
import Buildwatch.Proofs.Diagnostic.Reprinting
import Buildwatch.Proofs.Diagnostic.RoundTrip
import Buildwatch.Proofs.Machine.Launcher
import Buildwatch.Proofs.Output.Asking
import Buildwatch.Proofs.Output.Contribution
import Buildwatch.Proofs.Output.Cuts
import Buildwatch.Proofs.Output.Fairness
import Buildwatch.Proofs.Output.Stretches
import Buildwatch.Proofs.Path.Relative
import Buildwatch.Proofs.Plan
import Buildwatch.Proofs.Progress
import Buildwatch.Proofs.Run.Batch
import Buildwatch.Proofs.Run.Books
import Buildwatch.Proofs.Run.ErrorFlag
import Buildwatch.Proofs.Run.Lifecycle
import Buildwatch.Proofs.Session.ErrorFlag
import Buildwatch.Proofs.Session.Failure
import Buildwatch.Proofs.Session.History
import Buildwatch.Proofs.Session.Poll
import Buildwatch.Proofs.Session.Sequencing
import Buildwatch.Proofs.Session.Turn
import Buildwatch.Proofs.Target.Manifest
import Buildwatch.Proofs.Target.Resolution
