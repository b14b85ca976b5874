import EdgeGateway.Text
import EdgeGateway.Unicode.Table
import EdgeGateway.Unicode.Category
import EdgeGateway.Unicode.CombiningClass
import EdgeGateway.Unicode.Decomposition
import EdgeGateway.Unicode.Composition
import EdgeGateway.Unicode.BidiClass
import EdgeGateway.Unicode.JoiningType
import EdgeGateway.Idna.Mapping
import EdgeGateway.Unicode.Normalize
import EdgeGateway.Idna.Punycode
import EdgeGateway.Idna.ToAscii
import EdgeGateway.Text.Utf8
import EdgeGateway.Text.Numeral
import EdgeGateway.Text.Quoted
import EdgeGateway.Url.Percent
import EdgeGateway.Url.Address
import EdgeGateway.Url.Host
import EdgeGateway.Url.Basic
import EdgeGateway.Url.Path
import EdgeGateway.Url.Authority
import EdgeGateway.Url.Parse
import EdgeGateway.Http.Headers
import EdgeGateway.Http.Target
import EdgeGateway.Http.Message
import EdgeGateway.Backend
import EdgeGateway.Route
import EdgeGateway.Event
import EdgeGateway.Settings.Environment
import EdgeGateway.Settings.Template
import EdgeGateway.Settings.File
import EdgeGateway.Settings.Read
import EdgeGateway.Telemetry.Metrics
import EdgeGateway.Fault
import EdgeGateway.Cors
import EdgeGateway.Http.HopByHop
import EdgeGateway.Outbound
import EdgeGateway.Gateway
import EdgeGateway.Client.Exchange
import EdgeGateway.Client.Redirect
import EdgeGateway.Client
import EdgeGateway.Log.Directive
import EdgeGateway.Log.Filter
import EdgeGateway.Log.Line
import EdgeGateway.Command
import EdgeGateway.Main
import EdgeGateway.Proofs.Gateway.Recording
import EdgeGateway.Proofs.Gateway.Decision
import EdgeGateway.Proofs.Client.Exchanges
import EdgeGateway.Proofs.Idna.Survival
import EdgeGateway.Proofs.Url.Host
import EdgeGateway.Proofs.Url.Appended
import EdgeGateway.Proofs.Gateway.Site
import EdgeGateway.Proofs.Url.Climbing
import EdgeGateway.Proofs.Url.Names
import EdgeGateway.Proofs.Gateway.Confinement
import EdgeGateway.Proofs.Gateway.Influence
import EdgeGateway.Proofs.Gateway.Components
import EdgeGateway.Proofs.Gateway.Readable
import EdgeGateway.Proofs.Telemetry.Metrics
import EdgeGateway.Proofs.Gateway.Accounts
import EdgeGateway.Proofs.Gateway.Permission
import EdgeGateway.Proofs.Gateway.Recovery
import EdgeGateway.Proofs.Gateway.Secrecy
import EdgeGateway.Proofs.Settings.Verdict
import EdgeGateway.Proofs.Settings.Acceptance
import EdgeGateway.Proofs.Settings.Gaps
import EdgeGateway.Proofs.Client.Passing
import EdgeGateway.Proofs.Url.Trimmed
import EdgeGateway.Proofs.Gateway.Reach
import EdgeGateway.Proofs.Http.Nomination
import EdgeGateway.Proofs.Fault.Body
import EdgeGateway.Proofs.Settings.Message
import EdgeGateway.Proofs.Settings.Numbers
