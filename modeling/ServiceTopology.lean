import ServiceTopology.CommandLine.Arguments
import ServiceTopology.CommandLine.Run
import ServiceTopology.Event
import ServiceTopology.FileTree
import ServiceTopology.Graph.Assembly
import ServiceTopology.Graph.Build
import ServiceTopology.Graph.Labels
import ServiceTopology.Graph.Topology
import ServiceTopology.Json.Escape
import ServiceTopology.Json.Printer
import ServiceTopology.Json.Reader
import ServiceTopology.Json.Value
import ServiceTopology.Logging
import ServiceTopology.Main
import ServiceTopology.Number.Double
import ServiceTopology.Number.Literal
import ServiceTopology.Number.Rounding
import ServiceTopology.Problem
import ServiceTopology.Record.Metadata
import ServiceTopology.Record.Metric
import ServiceTopology.Report.BorderedTable
import ServiceTopology.Report.Printed
import ServiceTopology.Report.Ratio
import ServiceTopology.Report.TopologyDocument
import ServiceTopology.Report.TopologyTables
import ServiceTopology.Schema.Checked
import ServiceTopology.Schema.Decode
import ServiceTopology.Score
import ServiceTopology.Services
import ServiceTopology.Session
import ServiceTopology.Settings
import ServiceTopology.Settings.Assignments
import ServiceTopology.Settings.Sources
import ServiceTopology.Snapshot.Data
import ServiceTopology.Snapshot.Load
import ServiceTopology.Store.AlarmArchive
import ServiceTopology.Store.Fleet
import ServiceTopology.Store.Registry
import ServiceTopology.Table
import ServiceTopology.Text.Blank
import ServiceTopology.Text.Case
import ServiceTopology.Text.CaseTable
import ServiceTopology.Text.Cased
import ServiceTopology.Text.Decimal
import ServiceTopology.Text.Quoted
import ServiceTopology.Text.Terminal
import ServiceTopology.Text.Unprintable
import ServiceTopology.Text.Utf8
import ServiceTopology.Text.Wide
import ServiceTopology.Time.Bucket
import ServiceTopology.Time.Minutes
import ServiceTopology.Time.Moment
import ServiceTopology.Time.Step
import ServiceTopology.Proofs.Graph.Lookup
import ServiceTopology.Proofs.Graph.RowSequence
import ServiceTopology.Proofs.FirstByKey
import ServiceTopology.Proofs.Graph.Discovery
import ServiceTopology.Proofs.Graph.Mentions
import ServiceTopology.Proofs.Graph.NodeIdentity
import ServiceTopology.Proofs.Graph.CallRows
import ServiceTopology.Proofs.Graph.UserNode
import ServiceTopology.Proofs.Graph.Outline
import ServiceTopology.Proofs.Graph.Faults
import ServiceTopology.Proofs.Renaming
import ServiceTopology.Proofs.Graph.Renaming
import ServiceTopology.Proofs.Graph.RowOrder
import ServiceTopology.Proofs.Graph.Integrity
import ServiceTopology.Proofs.Graph.Irrelevance
import ServiceTopology.Proofs.Number.ReadBack
import ServiceTopology.Proofs.Schema.ReadBack
import ServiceTopology.Proofs.Graph.ReadBack
import ServiceTopology.Proofs.Json.Scalars
import ServiceTopology.Proofs.Text.Utf8
import ServiceTopology.Proofs.Text.Wide
import ServiceTopology.Proofs.Json.Spelling
import ServiceTopology.Proofs.Bindings
import ServiceTopology.Proofs.Json.ReadBack
import ServiceTopology.Proofs.Json.Compact
import ServiceTopology.Proofs.Record.ReadBack
import ServiceTopology.Proofs.Record.Layout
import ServiceTopology.Proofs.Snapshot.ReadBack
import ServiceTopology.Proofs.Json.Indented
import ServiceTopology.Proofs.Graph.Rates
import ServiceTopology.Proofs.Graph.Events
import ServiceTopology.Proofs.Store.AlarmWindow
import ServiceTopology.Proofs.Snapshot.Alarms
import ServiceTopology.Proofs.CommandLine.JsonOutput
import ServiceTopology.Proofs.Json.Faults
import ServiceTopology.Proofs.Snapshot.Failures
import ServiceTopology.Proofs.Time.Calendar
import ServiceTopology.Proofs.Time.Order
import ServiceTopology.Proofs.Time.Minutes
import ServiceTopology.Proofs.Store.AlarmSelection
import ServiceTopology.Proofs.Store.History
import ServiceTopology.Proofs.Store.Paging
import ServiceTopology.Proofs.Score
import ServiceTopology.Proofs.Store.ServersAlive
import ServiceTopology.Proofs.LastKnown
import ServiceTopology.Proofs.Report.Alignment
import ServiceTopology.Proofs.Number.Nearest
import ServiceTopology.Proofs.Number.NearestDouble
import ServiceTopology.Proofs.Report.PrintedRatios
