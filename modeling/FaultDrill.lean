import FaultDrill.Accumulator
import FaultDrill.Calendar.Date
import FaultDrill.Calendar.Instant
import FaultDrill.Calendar.Rfc3339
import FaultDrill.CommandLine.Arguments
import FaultDrill.CommandLine.DrillCommand
import FaultDrill.CommandLine.Events
import FaultDrill.CommandLine.Failure
import FaultDrill.CommandLine.Grammar
import FaultDrill.CommandLine.Host
import FaultDrill.CommandLine.Listing
import FaultDrill.CommandLine.Program
import FaultDrill.CommandLine.SettingsFile
import FaultDrill.ControlPlane.Command
import FaultDrill.Decimal.Basic
import FaultDrill.Decimal.Layout
import FaultDrill.Decimal.Places
import FaultDrill.Decimal.Shortest
import FaultDrill.Disk.Basic
import FaultDrill.Drill.Crew
import FaultDrill.Drill.Equipment
import FaultDrill.Drill.Run
import FaultDrill.Drill.Script
import FaultDrill.Duration
import FaultDrill.Fault.Basic
import FaultDrill.Fault.Record
import FaultDrill.Http.Client
import FaultDrill.Http.Header
import FaultDrill.Http.Message
import FaultDrill.Json.Number
import FaultDrill.Json.Printer
import FaultDrill.Json.Quoted
import FaultDrill.Json.Reader
import FaultDrill.Latency
import FaultDrill.LoadGenerator
import FaultDrill.LoadStats
import FaultDrill.LoadWindow
import FaultDrill.Log.Book
import FaultDrill.Log.Event
import FaultDrill.Log.Filter
import FaultDrill.Main
import FaultDrill.Outcome
import FaultDrill.Probe
import FaultDrill.Proofs.ControlPlane.Settlement
import FaultDrill.Proofs.Drill.Cancellation
import FaultDrill.Proofs.Drill.Episode
import FaultDrill.Proofs.Drill.Isolation
import FaultDrill.Proofs.Drill.Leak
import FaultDrill.Proofs.Drill.Line
import FaultDrill.Proofs.Drill.Noting
import FaultDrill.Proofs.Drill.Trace
import FaultDrill.Proofs.Http.Exchange
import FaultDrill.Proofs.Url.Extension
import FaultDrill.Report.Basic
import FaultDrill.Report.Markdown
import FaultDrill.Report.Record
import FaultDrill.Report.Writer
import FaultDrill.Scenario.Basic
import FaultDrill.Scenario.Record
import FaultDrill.Scenario.Sequence
import FaultDrill.Settings.Basic
import FaultDrill.Settings.Check
import FaultDrill.Settings.ControlPlane
import FaultDrill.Settings.Environment
import FaultDrill.Settings.Error
import FaultDrill.Settings.Http
import FaultDrill.Settings.Load
import FaultDrill.Settings.Loading
import FaultDrill.Settings.Logging
import FaultDrill.Settings.Output
import FaultDrill.Settings.Target
import FaultDrill.Text.Blank
import FaultDrill.Text.Reader
import FaultDrill.Text.Shown
import FaultDrill.Text.Unsigned
import FaultDrill.Text.Utf8
import FaultDrill.Url.Basic
import FaultDrill.Url.Direction
import FaultDrill.Url.Escape
import FaultDrill.Url.Ipv4
import FaultDrill.Url.Ipv6
import FaultDrill.Url.Name
import FaultDrill.Url.Parser
import FaultDrill.Url.Path
import FaultDrill.Url.Punycode
import FaultDrill.Value.Basic
import FaultDrill.Value.Members
import FaultDrill.WorkerPool
import FaultDrill.Yaml.Cursor
import FaultDrill.Yaml.Document
import FaultDrill.Yaml.Node.Basic
import FaultDrill.Yaml.Node.Parser
import FaultDrill.Yaml.Part
import FaultDrill.Yaml.Plain
import FaultDrill.Yaml.Printer
import FaultDrill.Yaml.Token.Basic
import FaultDrill.Yaml.Token.Block
import FaultDrill.Yaml.Token.Folding
import FaultDrill.Yaml.Token.Lexer
import FaultDrill.Yaml.Token.Plain
import FaultDrill.Yaml.Token.Quoted
import FaultDrill.Yaml.Token.Tag
import FaultDrill.Proofs.Drill.Indifference
import FaultDrill.Proofs.Load.Conservation
import FaultDrill.Proofs.Settings.Checking
import FaultDrill.Proofs.Settings.Equipping
import FaultDrill.Proofs.Yaml.Member
import FaultDrill.Proofs.Settings.Document
import FaultDrill.Proofs.Settings.Precedence
import FaultDrill.Proofs.CommandLine.Options
import FaultDrill.Proofs.Settings.Soundness
import FaultDrill.Proofs.Steps
import FaultDrill.Proofs.Text.Splitting
import FaultDrill.Proofs.Disk.Places
import FaultDrill.Proofs.Disk.Changes
import FaultDrill.Proofs.Report.Naming
import FaultDrill.Proofs.Report.Writing
import FaultDrill.Proofs.Report.History
import FaultDrill.Proofs.Text.Digits
import FaultDrill.Proofs.Log.Keeping
import FaultDrill.Proofs.Drill.Waiting
import FaultDrill.Proofs.CommandLine.Logging
import FaultDrill.Proofs.CommandLine.Exit
import FaultDrill.Proofs.Decimal.Bits
import FaultDrill.Proofs.Decimal.Rounding
import FaultDrill.Proofs.Json.Number
import FaultDrill.Proofs.Json.Quoted
import FaultDrill.Proofs.Json.RoundTrip
import FaultDrill.Proofs.Calendar.Rfc3339
import FaultDrill.Proofs.Value.Members
import FaultDrill.Proofs.Report.Record
import FaultDrill.Proofs.Report.Twin
import FaultDrill.Proofs.Load.Schedule
import FaultDrill.Proofs.Report.Overwriting
import FaultDrill.Proofs.Drill.Interruption
import FaultDrill.Proofs.CommandLine.Interruption
import FaultDrill.Proofs.Load.Pacing
import FaultDrill.Proofs.Load.Permits
import FaultDrill.Proofs.Load.Reordering
import FaultDrill.Proofs.Load.Interleaving
import FaultDrill.Proofs.ControlPlane.Telling
import FaultDrill.Proofs.ControlPlane.Verdict
import FaultDrill.Proofs.Url.Escaping
import FaultDrill.Proofs.Url.Walking
import FaultDrill.Proofs.Url.Continuation
import FaultDrill.Proofs.ControlPlane.Addressing
import FaultDrill.Proofs.Url.Hosts
import FaultDrill.Proofs.Url.Obstruction
import FaultDrill.Proofs.Settings.Joining
import FaultDrill.Proofs.Json.Telling
import FaultDrill.Proofs.Http.Shortening
import FaultDrill.Proofs.Probe.Rounds
import FaultDrill.Proofs.Load.Arithmetic
import FaultDrill.Proofs.Load.Ranking
import FaultDrill.Proofs.Load.Reduction
import FaultDrill.Proofs.Text.Marks
import FaultDrill.Proofs.Report.Lines
import FaultDrill.Proofs.Report.Cells
import FaultDrill.Proofs.Value.Giving
import FaultDrill.Proofs.Fault.Decoding
import FaultDrill.Proofs.Settings.RoundTrip
import FaultDrill.Proofs.Scenario.Sequence
import FaultDrill.Proofs.Http.Headers
import FaultDrill.Proofs.Text.Unsigned
import FaultDrill.Proofs.Settings.Endpoints
import FaultDrill.Proofs.Settings.Overriding
