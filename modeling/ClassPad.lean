import ClassPad.Catalog.Basic
import ClassPad.Catalog.Builtin
import ClassPad.Catalog.Entry
import ClassPad.Catalog.Item
import ClassPad.Catalog.Source
import ClassPad.Cli.Arguments
import ClassPad.Cli.Check
import ClassPad.Cli.Error
import ClassPad.Cli.Files
import ClassPad.Cli.Listing
import ClassPad.Cli.Run
import ClassPad.Cli.Style
import ClassPad.Client
import ClassPad.Decimal.Binary64
import ClassPad.Decimal.Shortest
import ClassPad.Decode.Error
import ClassPad.Decode.Shape
import ClassPad.Diagnostic
import ClassPad.Document
import ClassPad.Domain.Direction
import ClassPad.Domain.Joining
import ClassPad.Domain.Mapping
import ClassPad.Domain.Name
import ClassPad.Domain.Punycode
import ClassPad.Json.Printer
import ClassPad.Json.Reader
import ClassPad.Json.Value
import ClassPad.Main
import ClassPad.Position
import ClassPad.Proofs.Client
import ClassPad.Proofs.Decode.Record
import ClassPad.Proofs.Diagnostic.Bounds
import ClassPad.Proofs.Diagnostic.Exactness
import ClassPad.Proofs.Diagnostic.Lowering
import ClassPad.Proofs.Position
import ClassPad.Proofs.Position.Bytes
import ClassPad.Proofs.Position.Order
import ClassPad.Proofs.Replica
import ClassPad.Proofs.Run
import ClassPad.Proofs.Settings.Cache
import ClassPad.Proofs.Settings.History
import ClassPad.Proofs.Settings.Sharing
import ClassPad.Proofs.Settings.State
import ClassPad.Protocol.Basic
import ClassPad.Protocol.Capabilities
import ClassPad.Protocol.Edit
import ClassPad.Protocol.Params
import ClassPad.Rpc.Conversation
import ClassPad.Rpc.Failure
import ClassPad.Rpc.Frame
import ClassPad.Rpc.Message
import ClassPad.Rpc.Method
import ClassPad.Server
import ClassPad.Session
import ClassPad.Settings
import ClassPad.Settings.Cache
import ClassPad.Settings.Service
import ClassPad.Settings.Session
import ClassPad.Text.Blank
import ClassPad.Text.Canonical
import ClassPad.Text.Canonical.Table
import ClassPad.Text.Printable
import ClassPad.Text.Quoted
import ClassPad.Text.Runs
import ClassPad.Text.Split
import ClassPad.Text.Units
import ClassPad.Text.Utf8
import ClassPad.Uri.Basic
import ClassPad.Uri.Host
import ClassPad.Uri.Path
import ClassPad.Uri.Percent
import ClassPad.Yaml.Cursor
import ClassPad.Yaml.Entries
import ClassPad.Yaml.Event
import ClassPad.Yaml.Resolve
import ClassPad.Yaml.Scalar
import ClassPad.Yaml.Token
import ClassPad.Proofs.Server.Step
import ClassPad.Proofs.Server.History
import ClassPad.Proofs.Server.Lookups
import ClassPad.Proofs.Server.Passes
import ClassPad.Proofs.Server.Agreement
import ClassPad.Proofs.Session.Convergence
import ClassPad.Proofs.Server.Lockstep
import ClassPad.Proofs.Session.Marked
import ClassPad.Proofs.Server.Facet
import ClassPad.Proofs.Session.Facet
import ClassPad.Proofs.Session.Isolation
import ClassPad.Proofs.Settings.Limit
import ClassPad.Proofs.Server.Limits
import ClassPad.Proofs.Protocol.Capabilities
import ClassPad.Proofs.Server.Negotiation
import ClassPad.Proofs.Session.Scopes
import ClassPad.Proofs.Position.Clamping
import ClassPad.Proofs.Edit.InPlace
import ClassPad.Proofs.Diagnostic.Seam
import ClassPad.Proofs.Diagnostic.LineEnds
import ClassPad.Proofs.Cli.Files
import ClassPad.Proofs.Cli.Check
import ClassPad.Proofs.Decode.Domain
import ClassPad.Proofs.Settings.Domain
import ClassPad.Proofs.Decode.Normal
import ClassPad.Proofs.Catalog.Admission
import ClassPad.Proofs.Catalog.Wire
import ClassPad.Proofs.Position.Embedding
import ClassPad.Proofs.Edit.LineCount
