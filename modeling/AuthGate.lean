import AuthGate.Address.Socket
import AuthGate.Auth.DenialPolicy
import AuthGate.CommandLine
import AuthGate.Config.Loader
import AuthGate.Domain.Basic
import AuthGate.Gate.Session
import AuthGate.Log.Filter
import AuthGate.Main
import AuthGate.Path
import AuthGate.Path.Scan
import AuthGate.Pattern.Replacement
import AuthGate.Proofs.Address.Text
import AuthGate.Proofs.Auth.Challenge
import AuthGate.Proofs.Auth.Credentials
import AuthGate.Proofs.Auth.Endpoint
import AuthGate.Proofs.Auth.Redirect
import AuthGate.Proofs.Config.Separation
import AuthGate.Proofs.Config.Validation
import AuthGate.Proofs.Domain.Name
import AuthGate.Proofs.Except
import AuthGate.Proofs.Gate.Accounting
import AuthGate.Proofs.Gate.Assembly
import AuthGate.Proofs.Gate.Buildable
import AuthGate.Proofs.Gate.Confinement
import AuthGate.Proofs.Gate.Cookies
import AuthGate.Proofs.Gate.Denial
import AuthGate.Proofs.Gate.Destination
import AuthGate.Proofs.Gate.Ending
import AuthGate.Proofs.Gate.FailClosed
import AuthGate.Proofs.Gate.Forwarded
import AuthGate.Proofs.Gate.Identity
import AuthGate.Proofs.Gate.Indistinct
import AuthGate.Proofs.Gate.Metric
import AuthGate.Proofs.Gate.Passage
import AuthGate.Proofs.Gate.Privacy
import AuthGate.Proofs.Gate.PublicAddress
import AuthGate.Proofs.Gate.Question
import AuthGate.Proofs.Gate.RequestId
import AuthGate.Proofs.Gate.RequestedUri
import AuthGate.Proofs.Gate.Spelling
import AuthGate.Proofs.Gate.Timing
import AuthGate.Proofs.Header.Connection
import AuthGate.Proofs.Header.Fields
import AuthGate.Proofs.Header.Text
import AuthGate.Proofs.Path.DotSegment
import AuthGate.Proofs.Path.Escape
import AuthGate.Proofs.Path.Normal
import AuthGate.Proofs.Path.Respelling
import AuthGate.Proofs.Path.Scan
import AuthGate.Proofs.Path.Segments
import AuthGate.Proofs.Path.Shape
import AuthGate.Proofs.Path.Verdict
import AuthGate.Proofs.Pattern.Span
import AuthGate.Proofs.Route.Confinement
import AuthGate.Proofs.Route.Frame
import AuthGate.Proofs.Route.HopByHop
import AuthGate.Proofs.Route.Order
import AuthGate.Proofs.Route.Reach
import AuthGate.Proofs.Route.Relay
import AuthGate.Proofs.Route.Selection
import AuthGate.Proofs.Route.Sending
import AuthGate.Proofs.Shutdown
import AuthGate.Proofs.Uri.Authority
import AuthGate.Proofs.Uri.Form
import AuthGate.Proofs.Uri.Normal
import AuthGate.Proofs.Uri.Path
import AuthGate.Proofs.Uri.Printable
import AuthGate.Proofs.Url.Absolute
import AuthGate.Proofs.Url.Host
import AuthGate.Proofs.Url.Path
import AuthGate.Proofs.Url.Server
import AuthGate.Proofs.Url.Uri
import AuthGate.Proofs.Url.Web
import AuthGate.Route.Forward
import AuthGate.Route.Table
import AuthGate.Shutdown
import AuthGate.Startup
import AuthGate.Toml.Parser
import AuthGate.Uri.Basic
import AuthGate.Url.Form
