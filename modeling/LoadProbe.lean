import LoadProbe.Binary64.Basic
import LoadProbe.Binary64.Literal
import LoadProbe.Binary64.Notation
import LoadProbe.Binary64.Shortest
import LoadProbe.Calendar
import LoadProbe.CommandLine.Arguments
import LoadProbe.CommandLine.Flag
import LoadProbe.CommandLine.Help
import LoadProbe.CommandLine.Program
import LoadProbe.Duration
import LoadProbe.Fault
import LoadProbe.Http.Client
import LoadProbe.Http.Simulation
import LoadProbe.Job.Entry
import LoadProbe.Job.Event
import LoadProbe.Job.Message
import LoadProbe.Job.Outcome
import LoadProbe.Job.Polling
import LoadProbe.Job.StatusBody
import LoadProbe.Job.Submission
import LoadProbe.Job.Truth
import LoadProbe.Job.Validation
import LoadProbe.Json.Printer
import LoadProbe.Json.Reader
import LoadProbe.Json.Record
import LoadProbe.Json.Value
import LoadProbe.Json.Written
import LoadProbe.Metrics.Aggregate
import LoadProbe.Metrics.Exposition
import LoadProbe.Metrics.Histogram
import LoadProbe.Metrics.Report
import LoadProbe.Metrics.Summary
import LoadProbe.Metrics.Threshold
import LoadProbe.Run.Crowd
import LoadProbe.Run.Flow
import LoadProbe.Run.Gate
import LoadProbe.Run.Iteration
import LoadProbe.Run.Service
import LoadProbe.Settings.Basic
import LoadProbe.Settings.Check
import LoadProbe.Settings.Environment
import LoadProbe.Settings.Format
import LoadProbe.Settings.Overrides
import LoadProbe.Settings.Reading
import LoadProbe.Settings.Show
import LoadProbe.Settings.Sources
import LoadProbe.Settings.Tree
import LoadProbe.SortedMap
import LoadProbe.Text.Digits
import LoadProbe.Text.Layout
import LoadProbe.Text.Printable
import LoadProbe.Text.Quoted
import LoadProbe.Toml.DateTime
import LoadProbe.Toml.Number
import LoadProbe.Toml.Reader
import LoadProbe.Toml.Writer
import LoadProbe.Url.Address
import LoadProbe.Url.Composition
import LoadProbe.Url.Direction
import LoadProbe.Url.Domain
import LoadProbe.Url.Fault
import LoadProbe.Url.Folding
import LoadProbe.Url.Join
import LoadProbe.Url.Joining
import LoadProbe.Url.Parse
import LoadProbe.Url.Punycode
import LoadProbe.Word
import LoadProbe.Yaml.Cursor
import LoadProbe.Yaml.Document
import LoadProbe.Yaml.Node
import LoadProbe.Yaml.Property
import LoadProbe.Yaml.Reader
import LoadProbe.Yaml.Scalar
import LoadProbe.Yaml.Token
import LoadProbe.Main
import LoadProbe.Proofs.Flow.Path
import LoadProbe.Proofs.Flow.Moves
import LoadProbe.Proofs.Iteration.Trace
import LoadProbe.Proofs.Iteration.Events
import LoadProbe.Proofs.Iteration.Calls
import LoadProbe.Proofs.Iteration.Bounds
import LoadProbe.Proofs.Polling.Observation
import LoadProbe.Proofs.Polling.Verdicts
import LoadProbe.Proofs.Polling.Trace
import LoadProbe.Proofs.Polling.Course
import LoadProbe.Proofs.Crowd.Relay
import LoadProbe.Proofs.Crowd.Strides
import LoadProbe.Proofs.Crowd.Schedule
import LoadProbe.Proofs.Crowd.ExactlyOnce
import LoadProbe.Proofs.Maps.Partial
import LoadProbe.Proofs.Json.Lookup
import LoadProbe.Proofs.Body.StatusLookup
import LoadProbe.Proofs.Maps.Counts
import LoadProbe.Proofs.Metrics.Tallies
import LoadProbe.Proofs.Metrics.Bookkeeping
import LoadProbe.Proofs.Binary64.Rounding
import LoadProbe.Proofs.Binary64.Order
import LoadProbe.Proofs.Metrics.Cells
import LoadProbe.Proofs.Metrics.StatusLimit
import LoadProbe.Proofs.Maps.Values
import LoadProbe.Proofs.Metrics.Multiples
import LoadProbe.Proofs.Metrics.Reconciliation
import LoadProbe.Proofs.Crowd.Traffic
import LoadProbe.Proofs.Crowd.Punctual
import LoadProbe.Proofs.Crowd.Timetable
import LoadProbe.Proofs.Crowd.Progress
import LoadProbe.Proofs.Crowd.Limits
import LoadProbe.Proofs.Crowd.Participation
import LoadProbe.Proofs.Crowd.Scaling
import LoadProbe.Proofs.Metrics.Reordering
import LoadProbe.Proofs.Metrics.Accuracy
import LoadProbe.Proofs.Body.SubmissionLookup
import LoadProbe.Proofs.Text.Runs
import LoadProbe.Proofs.Text.Numerals
import LoadProbe.Proofs.Binary64.Wholes
import LoadProbe.Proofs.Metrics.Readings
import LoadProbe.Proofs.Metrics.Exposition
import LoadProbe.Proofs.Settings.Keys
import LoadProbe.Proofs.Settings.Layers
import LoadProbe.Proofs.Settings.Sources
import LoadProbe.Proofs.Toml.Strings
import LoadProbe.Proofs.Binary64.Spelling
import LoadProbe.Proofs.Toml.Values
import LoadProbe.Proofs.Toml.Documents
import LoadProbe.Proofs.Settings.Reloading
import LoadProbe.Proofs.Binary64.Literals
import LoadProbe.Proofs.Settings.Variables
import LoadProbe.Proofs.Json.Grammar
import LoadProbe.Proofs.Json.Soundness
import LoadProbe.Proofs.Json.Members
import LoadProbe.Proofs.Body.FieldIndependence
import LoadProbe.Proofs.Json.Printing
import LoadProbe.Proofs.Calendar.Days
import LoadProbe.Proofs.Calendar.Instants
import LoadProbe.Proofs.Metrics.Saved
import LoadProbe.Proofs.Body.Requests
import LoadProbe.Proofs.Url.StatusUrls
