import EngineGateway.Acknowledgement
import EngineGateway.Backend.Basic
import EngineGateway.Backend.Call
import EngineGateway.Backend.Connect
import EngineGateway.Backend.Recorded
import EngineGateway.BackendName
import EngineGateway.Capabilities
import EngineGateway.Cli.Command
import EngineGateway.Cli.Emission
import EngineGateway.Cli.Files
import EngineGateway.Cli.Flag
import EngineGateway.Cli.Invocation
import EngineGateway.Cli.JsonArgument
import EngineGateway.Cli.Run
import EngineGateway.Client.Answer
import EngineGateway.Client.Elasticsearch
import EngineGateway.Client.Opensearch
import EngineGateway.Decimal.Binary
import EngineGateway.Decimal.Layout
import EngineGateway.Decimal.Numeral
import EngineGateway.Decimal.Shortest
import EngineGateway.Document
import EngineGateway.Failure
import EngineGateway.HealthState
import EngineGateway.Index.Descriptor
import EngineGateway.Json.Display
import EngineGateway.Json.Key
import EngineGateway.Json.Membership
import EngineGateway.Json.Printer
import EngineGateway.Json.Reader
import EngineGateway.Json.Value
import EngineGateway.Json.Writable
import EngineGateway.Main
import EngineGateway.Name
import EngineGateway.Pipeline
import EngineGateway.Proofs.Backend.Data
import EngineGateway.Proofs.Backend.Honest
import EngineGateway.Proofs.Backend.Meaning
import EngineGateway.Proofs.Backend.Steady
import EngineGateway.Proofs.Cli.Discipline
import EngineGateway.Proofs.Cli.Entrances
import EngineGateway.Proofs.Cli.Precedence
import EngineGateway.Proofs.Cli.Reading
import EngineGateway.Proofs.Cli.Rejection
import EngineGateway.Proofs.Client.Rendering
import EngineGateway.Proofs.Client.Translation
import EngineGateway.Proofs.Conversation.Abreast
import EngineGateway.Proofs.Conversation.Ending
import EngineGateway.Proofs.Conversation.Event
import EngineGateway.Proofs.Conversation.Leading
import EngineGateway.Proofs.Conversation.Level
import EngineGateway.Proofs.Decimal.Readings
import EngineGateway.Proofs.Json.Blank
import EngineGateway.Proofs.Json.Display
import EngineGateway.Proofs.Rest.Escaping
import EngineGateway.Proofs.Rest.Query
import EngineGateway.Proofs.Rest.Reaching
import EngineGateway.Proofs.Rest.Regular
import EngineGateway.Proofs.Rest.Rendering
import EngineGateway.Proofs.Rest.Segments
import EngineGateway.Proofs.Rest.Steps
import EngineGateway.Proofs.Rest.Wire
import EngineGateway.Proofs.Search.Dotted
import EngineGateway.Proofs.Search.Leaves
import EngineGateway.Proofs.Search.Opening
import EngineGateway.Proofs.Search.Reading
import EngineGateway.Proofs.Session.Agreement
import EngineGateway.Proofs.Session.Asking
import EngineGateway.Proofs.Session.Backoff
import EngineGateway.Proofs.Session.Closure
import EngineGateway.Proofs.Session.Deadline
import EngineGateway.Proofs.Session.Delivery
import EngineGateway.Proofs.Session.Detection
import EngineGateway.Proofs.Session.ExactTime
import EngineGateway.Proofs.Session.Extraction
import EngineGateway.Proofs.Session.Finding
import EngineGateway.Proofs.Session.Following
import EngineGateway.Proofs.Session.Forgiveness
import EngineGateway.Proofs.Session.Generation
import EngineGateway.Proofs.Session.HealthReading
import EngineGateway.Proofs.Session.IndexSettings
import EngineGateway.Proofs.Session.Interchange
import EngineGateway.Proofs.Session.Knowledge
import EngineGateway.Proofs.Session.LongerWait
import EngineGateway.Proofs.Session.Look
import EngineGateway.Proofs.Session.MalformedAnswer
import EngineGateway.Proofs.Session.Negotiation
import EngineGateway.Proofs.Session.ObjectAnswer
import EngineGateway.Proofs.Session.Oblivious
import EngineGateway.Proofs.Session.Outcome
import EngineGateway.Proofs.Session.PipelineProbe
import EngineGateway.Proofs.Session.PollCount
import EngineGateway.Proofs.Session.Polling
import EngineGateway.Proofs.Session.RawPaths
import EngineGateway.Proofs.Session.RawProbe
import EngineGateway.Proofs.Session.Searching
import EngineGateway.Proofs.Session.Traffic
import EngineGateway.Proofs.Session.Transparency
import EngineGateway.Proofs.Session.UncheckedHits
import EngineGateway.Proofs.Settings.Reading
import EngineGateway.Proofs.Text.Casing
import EngineGateway.Proofs.Text.Digits
import EngineGateway.Proofs.Text.Octets
import EngineGateway.Proofs.Text.Percent
import EngineGateway.Proofs.Text.Trimming
import EngineGateway.Proofs.Version.Countable
import EngineGateway.Proofs.Version.Growth
import EngineGateway.Proofs.Version.Ordering
import EngineGateway.Proofs.Version.Overlong
import EngineGateway.Proofs.Version.RoundTrip
import EngineGateway.Proofs.Version.Semantic
import EngineGateway.Proofs.Version.Spelling
import EngineGateway.Record
import EngineGateway.Record.Shape
import EngineGateway.Rest.Address
import EngineGateway.Rest.AddressFault
import EngineGateway.Rest.Backend
import EngineGateway.Rest.Bracket
import EngineGateway.Rest.Label
import EngineGateway.Rest.NumericHost
import EngineGateway.Rest.Parameters
import EngineGateway.Rest.Reference
import EngineGateway.Rest.Target
import EngineGateway.Search.Answer
import EngineGateway.Search.FieldValues
import EngineGateway.Search.Query
import EngineGateway.Search.Result
import EngineGateway.Session.Basic
import EngineGateway.Session.Conversation
import EngineGateway.Session.Detection
import EngineGateway.Session.Documents
import EngineGateway.Session.Health
import EngineGateway.Session.Indices
import EngineGateway.Session.LogEntry
import EngineGateway.Session.Operation
import EngineGateway.Session.Pipelines
import EngineGateway.Session.Searches
import EngineGateway.Session.Seconds
import EngineGateway.Settings.Basic
import EngineGateway.Settings.Environment
import EngineGateway.Status
import EngineGateway.Text.Basic
import EngineGateway.Text.Blank
import EngineGateway.Text.CharacterSet
import EngineGateway.Text.Combining
import EngineGateway.Text.Composition
import EngineGateway.Text.Direction
import EngineGateway.Text.Joining
import EngineGateway.Text.Lower
import EngineGateway.Text.Mark
import EngineGateway.Text.Nameable
import EngineGateway.Text.Octets
import EngineGateway.Text.Percent
import EngineGateway.Text.Point
import EngineGateway.Text.Printable
import EngineGateway.Text.Punycode
import EngineGateway.Text.Quoted
import EngineGateway.Text.Script
import EngineGateway.Text.Split
import EngineGateway.Text.Upper
import EngineGateway.Text.Wide
import EngineGateway.Validation.Check
import EngineGateway.Validation.Checked
import EngineGateway.Validation.Complaint
import EngineGateway.Version.Basic
import EngineGateway.Version.Grammar
import EngineGateway.Version.Precedence
import EngineGateway.Version.Record
