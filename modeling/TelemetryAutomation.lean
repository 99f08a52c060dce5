import TelemetryAutomation.Alert.Cooldown
import TelemetryAutomation.Alert.Message
import TelemetryAutomation.Alert.Recipient
import TelemetryAutomation.Alert.Settings
import TelemetryAutomation.Alert.Slug
import TelemetryAutomation.Alert.Template
import TelemetryAutomation.Catalog.Basic
import TelemetryAutomation.Catalog.Device
import TelemetryAutomation.Catalog.Parameter
import TelemetryAutomation.Catalog.Payload
import TelemetryAutomation.Catalog.Resolution
import TelemetryAutomation.Catalog.Telemetry
import TelemetryAutomation.Command.Basic
import TelemetryAutomation.Condition.Comparison
import TelemetryAutomation.Condition.Expression
import TelemetryAutomation.Condition.Guided
import TelemetryAutomation.Decimal.Layout
import TelemetryAutomation.Decimal.Reading
import TelemetryAutomation.Decimal.Shortest
import TelemetryAutomation.Graph.Basic
import TelemetryAutomation.Graph.Index
import TelemetryAutomation.Graph.Node
import TelemetryAutomation.Graph.Settings
import TelemetryAutomation.Graph.Structure
import TelemetryAutomation.Identity.Correlation
import TelemetryAutomation.Identity.Key
import TelemetryAutomation.Json.Basic
import TelemetryAutomation.Json.Document
import TelemetryAutomation.Json.Path
import TelemetryAutomation.Json.Printer
import TelemetryAutomation.Json.Reader
import TelemetryAutomation.Json.Record
import TelemetryAutomation.Json.Scalar
import TelemetryAutomation.Main
import TelemetryAutomation.Pipeline.Basic
import TelemetryAutomation.Pipeline.Environment
import TelemetryAutomation.Pipeline.Environment.Tree
import TelemetryAutomation.Pipeline.Environment.Value
import TelemetryAutomation.Pipeline.Environment.Variable
import TelemetryAutomation.Pipeline.Publish
import TelemetryAutomation.Pipeline.Settings
import TelemetryAutomation.Pipeline.Telemetry
import TelemetryAutomation.Proofs.Alert.Addresses
import TelemetryAutomation.Proofs.Alert.Cooldowns
import TelemetryAutomation.Proofs.Alert.Keys
import TelemetryAutomation.Proofs.Alert.Placeholders
import TelemetryAutomation.Proofs.Alert.Recipients
import TelemetryAutomation.Proofs.Alert.Replacement
import TelemetryAutomation.Proofs.Alert.Resolving
import TelemetryAutomation.Proofs.Alert.Scanning
import TelemetryAutomation.Proofs.Catalog.Bounds
import TelemetryAutomation.Proofs.Catalog.Faithful
import TelemetryAutomation.Proofs.Catalog.Payload
import TelemetryAutomation.Proofs.Catalog.Resolution
import TelemetryAutomation.Proofs.Condition.Comparison
import TelemetryAutomation.Proofs.Condition.Equality
import TelemetryAutomation.Proofs.Condition.Expression
import TelemetryAutomation.Proofs.Condition.Guided
import TelemetryAutomation.Proofs.Condition.Order
import TelemetryAutomation.Proofs.Condition.Truth
import TelemetryAutomation.Proofs.Condition.Variables
import TelemetryAutomation.Proofs.Decimal.Double
import TelemetryAutomation.Proofs.Decimal.Grammar
import TelemetryAutomation.Proofs.Decimal.Literal
import TelemetryAutomation.Proofs.Decimal.Nearest
import TelemetryAutomation.Proofs.Decimal.Order
import TelemetryAutomation.Proofs.Decimal.Rounded
import TelemetryAutomation.Proofs.Decimal.Rounding
import TelemetryAutomation.Proofs.Decimal.Scientific
import TelemetryAutomation.Proofs.Ending
import TelemetryAutomation.Proofs.Graph.Decoding
import TelemetryAutomation.Proofs.Graph.Encoding
import TelemetryAutomation.Proofs.Graph.Index
import TelemetryAutomation.Proofs.Graph.Search
import TelemetryAutomation.Proofs.Graph.Settings
import TelemetryAutomation.Proofs.Graph.WellFormed
import TelemetryAutomation.Proofs.Identity.Correlation
import TelemetryAutomation.Proofs.Identity.Key
import TelemetryAutomation.Proofs.Json.Documents
import TelemetryAutomation.Proofs.Json.Nesting
import TelemetryAutomation.Proofs.Json.Numbers
import TelemetryAutomation.Proofs.Json.Path
import TelemetryAutomation.Proofs.Pipeline.Calls
import TelemetryAutomation.Proofs.Pipeline.Entries
import TelemetryAutomation.Proofs.Pipeline.Interrupted
import TelemetryAutomation.Proofs.Pipeline.Journal
import TelemetryAutomation.Proofs.Pipeline.Ledger
import TelemetryAutomation.Proofs.Pipeline.Leftover
import TelemetryAutomation.Proofs.Pipeline.LiveVersion
import TelemetryAutomation.Proofs.Pipeline.Mirror
import TelemetryAutomation.Proofs.Pipeline.OnlyLive
import TelemetryAutomation.Proofs.Pipeline.Publish
import TelemetryAutomation.Proofs.Pipeline.Served
import TelemetryAutomation.Proofs.Pipeline.Started
import TelemetryAutomation.Proofs.Pipeline.Tables
import TelemetryAutomation.Proofs.Pipeline.Telemetry
import TelemetryAutomation.Proofs.Pipeline.Tenants
import TelemetryAutomation.Proofs.Pipeline.Writes
import TelemetryAutomation.Proofs.Repetitions
import TelemetryAutomation.Proofs.Run.Accepted
import TelemetryAutomation.Proofs.Run.Actions
import TelemetryAutomation.Proofs.Run.Audit
import TelemetryAutomation.Proofs.Run.Behavior
import TelemetryAutomation.Proofs.Run.Commands
import TelemetryAutomation.Proofs.Run.Contexts
import TelemetryAutomation.Proofs.Run.Cooldowns
import TelemetryAutomation.Proofs.Run.Depth
import TelemetryAutomation.Proofs.Run.Effects
import TelemetryAutomation.Proofs.Run.Entitled
import TelemetryAutomation.Proofs.Run.Extension
import TelemetryAutomation.Proofs.Run.Finishing
import TelemetryAutomation.Proofs.Run.Handing
import TelemetryAutomation.Proofs.Run.Journal
import TelemetryAutomation.Proofs.Run.Mail
import TelemetryAutomation.Proofs.Run.Moments
import TelemetryAutomation.Proofs.Run.Numbering
import TelemetryAutomation.Proofs.Run.Paths
import TelemetryAutomation.Proofs.Run.Silence
import TelemetryAutomation.Proofs.Run.Start
import TelemetryAutomation.Proofs.Run.Traversal
import TelemetryAutomation.Proofs.Run.Triggers
import TelemetryAutomation.Proofs.Run.Turns
import TelemetryAutomation.Proofs.Run.Visits
import TelemetryAutomation.Proofs.SortedMap
import TelemetryAutomation.Proofs.Store.Failing
import TelemetryAutomation.Proofs.Store.Reliable
import TelemetryAutomation.Proofs.Success
import TelemetryAutomation.Proofs.Text.Integer
import TelemetryAutomation.Proofs.Text.Lowercase
import TelemetryAutomation.Proofs.Text.Pieces
import TelemetryAutomation.Proofs.Text.Trimming
import TelemetryAutomation.Proofs.Text.Words
import TelemetryAutomation.Proofs.Trigger.Compilation
import TelemetryAutomation.Proofs.Trigger.Matching
import TelemetryAutomation.Proofs.Trigger.Rows
import TelemetryAutomation.Proofs.Trigger.Sources
import TelemetryAutomation.Proofs.Trigger.Stages
import TelemetryAutomation.Proofs.Workflow.CommandPayload
import TelemetryAutomation.Proofs.Workflow.NodeCheck
import TelemetryAutomation.Replay.Basic
import TelemetryAutomation.Replay.Fixture
import TelemetryAutomation.Run.Basic
import TelemetryAutomation.Run.Behavior
import TelemetryAutomation.Run.Context
import TelemetryAutomation.Run.Execution
import TelemetryAutomation.Run.Outcome
import TelemetryAutomation.Run.Services
import TelemetryAutomation.Run.Step
import TelemetryAutomation.Run.Walk
import TelemetryAutomation.SortedMap.Basic
import TelemetryAutomation.Store.Outages
import TelemetryAutomation.Store.Runs
import TelemetryAutomation.Store.Workflows
import TelemetryAutomation.Text.Alphanumeric
import TelemetryAutomation.Text.Blank
import TelemetryAutomation.Text.Integer
import TelemetryAutomation.Text.Lowercase
import TelemetryAutomation.Text.Pieces
import TelemetryAutomation.Text.Quoted
import TelemetryAutomation.Text.Ranges
import TelemetryAutomation.Time.Calendar
import TelemetryAutomation.Time.Clock
import TelemetryAutomation.Time.Timestamp
import TelemetryAutomation.Trigger.Compile
import TelemetryAutomation.Trigger.Index
import TelemetryAutomation.Trigger.Match
import TelemetryAutomation.Trigger.Row
import TelemetryAutomation.Workflow.Basic
import TelemetryAutomation.Workflow.NodeCheck
