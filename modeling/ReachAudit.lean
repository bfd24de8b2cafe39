import ReachAudit.Address.Ipv4
import ReachAudit.Address.Ipv6
import ReachAudit.Address.Socket
import ReachAudit.Auditor
import ReachAudit.Auditor.Scan
import ReachAudit.Auditor.Step
import ReachAudit.Binary64
import ReachAudit.CommandLine
import ReachAudit.CommandLine.Audit
import ReachAudit.CommandLine.LogFilter
import ReachAudit.CommandLine.Trigger
import ReachAudit.CommandLine.Values
import ReachAudit.Dispatch
import ReachAudit.Duration
import ReachAudit.Event
import ReachAudit.Event.Codec
import ReachAudit.History.Endpoint
import ReachAudit.History.Row
import ReachAudit.History.Store
import ReachAudit.Identity
import ReachAudit.Identity.Request
import ReachAudit.Instant
import ReachAudit.Json.Printer
import ReachAudit.Json.Reader
import ReachAudit.Json.Shape
import ReachAudit.Json.Value
import ReachAudit.Main
import ReachAudit.Metrics
import ReachAudit.NameSet
import ReachAudit.Network
import ReachAudit.Network.Isolated
import ReachAudit.Node
import ReachAudit.Node.Resource
import ReachAudit.Node.Sync
import ReachAudit.Port
import ReachAudit.Probe
import ReachAudit.Probe.Direct
import ReachAudit.Probe.Outcome
import ReachAudit.Probe.Proxied
import ReachAudit.Proofs.Address.Text
import ReachAudit.Proofs.Auditor.Batches
import ReachAudit.Proofs.Auditor.ChosenScan
import ReachAudit.Proofs.Auditor.CompletedScan
import ReachAudit.Proofs.Auditor.Counters
import ReachAudit.Proofs.Auditor.CurrentHistory
import ReachAudit.Proofs.Auditor.FairRuns
import ReachAudit.Proofs.Auditor.Interchange
import ReachAudit.Proofs.Auditor.Isolation
import ReachAudit.Proofs.Auditor.Log
import ReachAudit.Proofs.Auditor.Origins
import ReachAudit.Proofs.Auditor.PendingRows
import ReachAudit.Proofs.Auditor.Permits
import ReachAudit.Proofs.Auditor.RecordedReports
import ReachAudit.Proofs.Auditor.Reports
import ReachAudit.Proofs.Auditor.RowTimes
import ReachAudit.Proofs.Auditor.RowWrites
import ReachAudit.Proofs.Auditor.Started
import ReachAudit.Proofs.Auditor.Steps
import ReachAudit.Proofs.Auditor.Tracking
import ReachAudit.Proofs.Auditor.Turns
import ReachAudit.Proofs.Auditor.Underway
import ReachAudit.Proofs.Auditor.World
import ReachAudit.Proofs.Auditor.WriteEffect
import ReachAudit.Proofs.Event.Envelope
import ReachAudit.Proofs.Event.Layout
import ReachAudit.Proofs.Event.RoundTrip
import ReachAudit.Proofs.Event.Routing
import ReachAudit.Proofs.History.Calls
import ReachAudit.Proofs.History.Clears
import ReachAudit.Proofs.History.Effects
import ReachAudit.Proofs.History.Floor
import ReachAudit.Proofs.History.Kept
import ReachAudit.Proofs.History.KeyOrder
import ReachAudit.Proofs.History.Ledger
import ReachAudit.Proofs.History.Placement
import ReachAudit.Proofs.History.Routes
import ReachAudit.Proofs.Identity.Calls
import ReachAudit.Proofs.Json.Brackets
import ReachAudit.Proofs.Json.Kinds
import ReachAudit.Proofs.Json.Members
import ReachAudit.Proofs.Json.Numerals
import ReachAudit.Proofs.Json.RoundTrip
import ReachAudit.Proofs.Json.Spelling
import ReachAudit.Proofs.Json.Strings
import ReachAudit.Proofs.Json.Values
import ReachAudit.Proofs.Json.Yields
import ReachAudit.Proofs.ListUpdate
import ReachAudit.Proofs.Node.Labels
import ReachAudit.Proofs.Node.Roles
import ReachAudit.Proofs.Node.Sightings
import ReachAudit.Proofs.Port.Grammar
import ReachAudit.Proofs.Probe.Direct
import ReachAudit.Proofs.Probe.Endpoint
import ReachAudit.Proofs.Probe.Redirects
import ReachAudit.Proofs.Rule.Deliveries
import ReachAudit.Proofs.Rule.Depiction
import ReachAudit.Proofs.Rule.Index
import ReachAudit.Proofs.Rule.Lookup
import ReachAudit.Proofs.Rule.Respelling
import ReachAudit.Proofs.Rule.Shape
import ReachAudit.Proofs.Rule.Watch
import ReachAudit.Proofs.Text.ByteOrder
import ReachAudit.Proofs.Text.Pieces
import ReachAudit.Proofs.Text.Trimmed
import ReachAudit.Proofs.Trigger.Delivery
import ReachAudit.Proofs.Trigger.Receive
import ReachAudit.Rule
import ReachAudit.Rule.Index
import ReachAudit.Rule.Resource
import ReachAudit.Scan.Pool
import ReachAudit.Scan.Target
import ReachAudit.Scan.Task
import ReachAudit.Table
import ReachAudit.Text.Alphanumeric
import ReachAudit.Text.Blank
import ReachAudit.Text.Digits
import ReachAudit.Text.Hangul
import ReachAudit.Text.Images
import ReachAudit.Text.Mark
import ReachAudit.Text.Normal
import ReachAudit.Text.Normal.Classes
import ReachAudit.Text.Normal.Composites
import ReachAudit.Text.Pattern
import ReachAudit.Text.Printable
import ReachAudit.Text.Quoted
import ReachAudit.Text.Ranges
import ReachAudit.Text.Trim
import ReachAudit.Text.Unassigned
import ReachAudit.Text.Utf8
import ReachAudit.Trigger
import ReachAudit.Trigger.Broker
import ReachAudit.Url
import ReachAudit.Url.Domain
import ReachAudit.Url.Domain.Direction
import ReachAudit.Url.Domain.Folding
import ReachAudit.Url.Domain.Joiner
import ReachAudit.Url.Host
import ReachAudit.Url.Percent
import ReachAudit.Url.Punycode
import ReachAudit.Url.Query
import ReachAudit.Url.Reader
import ReachAudit.Proofs.Rule.Fields
