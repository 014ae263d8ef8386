import SuiteBench.Benchmark.Causes
import SuiteBench.Benchmark.Harness
import SuiteBench.Benchmark.Manifest
import SuiteBench.Benchmark.Plan
import SuiteBench.CommandLine.Application
import SuiteBench.CommandLine.Command
import SuiteBench.CommandLine.Grammar
import SuiteBench.CommandLine.LogFiles
import SuiteBench.CommandLine.Printout
import SuiteBench.Csv.Scan
import SuiteBench.Csv.Table
import SuiteBench.Decimal.Arithmetic
import SuiteBench.Decimal.Layout
import SuiteBench.Decimal.Natural
import SuiteBench.Decimal.Reader
import SuiteBench.Endpoint.Basic
import SuiteBench.Endpoint.Catalog
import SuiteBench.Endpoint.Document
import SuiteBench.Execution.Capture
import SuiteBench.Execution.Coordinator
import SuiteBench.Execution.Executor
import SuiteBench.Execution.Invocation
import SuiteBench.Execution.Monitor
import SuiteBench.Execution.Programs
import SuiteBench.Execution.Relay
import SuiteBench.Execution.Tool
import SuiteBench.Execution.World
import SuiteBench.Json.Decoder
import SuiteBench.Json.Printer
import SuiteBench.Json.Reader
import SuiteBench.Json.Value
import SuiteBench.Log.Cascade
import SuiteBench.Log.Classifier
import SuiteBench.Log.Progress
import SuiteBench.Main
import SuiteBench.Moment
import SuiteBench.Names
import SuiteBench.Pattern.Basic
import SuiteBench.Pattern.CharSet
import SuiteBench.Pattern.Meaning
import SuiteBench.Pattern.Property
import SuiteBench.Pattern.Reader
import SuiteBench.Pattern.Segment
import SuiteBench.Pattern.Written
import SuiteBench.Proofs.Benchmark.Attempts
import SuiteBench.Proofs.Benchmark.Bookkeeping
import SuiteBench.Proofs.Benchmark.Disturbance
import SuiteBench.Proofs.Benchmark.Interruption
import SuiteBench.Proofs.Benchmark.Isolation
import SuiteBench.Proofs.Benchmark.Manifest
import SuiteBench.Proofs.Benchmark.Outcomes
import SuiteBench.Proofs.Benchmark.Regeneration
import SuiteBench.Proofs.Benchmark.Resumption
import SuiteBench.Proofs.Benchmark.Stages
import SuiteBench.Proofs.CommandLine.Faults
import SuiteBench.Proofs.CommandLine.LogFiles
import SuiteBench.Proofs.CommandLine.Repetition
import SuiteBench.Proofs.CommandLine.Reports
import SuiteBench.Proofs.Csv.RoundTrip
import SuiteBench.Proofs.Decimal.Digits
import SuiteBench.Proofs.Decimal.Doubles
import SuiteBench.Proofs.Decimal.Exact
import SuiteBench.Proofs.Decimal.Places
import SuiteBench.Proofs.Decimal.Reading
import SuiteBench.Proofs.Decimal.Rounding
import SuiteBench.Proofs.Decimal.Shortest
import SuiteBench.Proofs.Decimal.Signs
import SuiteBench.Proofs.Endpoint.Rejection
import SuiteBench.Proofs.Endpoint.Rows
import SuiteBench.Proofs.Execution.Capture
import SuiteBench.Proofs.Execution.Confinement
import SuiteBench.Proofs.Execution.Coordinator
import SuiteBench.Proofs.Execution.Invocation
import SuiteBench.Proofs.Execution.Monitor
import SuiteBench.Proofs.Execution.Relay
import SuiteBench.Proofs.Execution.Summary
import SuiteBench.Proofs.Execution.Templates
import SuiteBench.Proofs.Json.Doubles
import SuiteBench.Proofs.Json.FieldOrder
import SuiteBench.Proofs.Json.Numbers
import SuiteBench.Proofs.Json.RoundTrip
import SuiteBench.Proofs.Json.Text
import SuiteBench.Proofs.Log.Classifier
import SuiteBench.Proofs.Log.Counts
import SuiteBench.Proofs.Log.Telling
import SuiteBench.Proofs.Log.WholeLines
import SuiteBench.Proofs.Moment.Calendar
import SuiteBench.Proofs.Moment.Text
import SuiteBench.Proofs.Pattern.Counting
import SuiteBench.Proofs.Pattern.Matching
import SuiteBench.Proofs.Pattern.Searching
import SuiteBench.Proofs.Pattern.Spelling
import SuiteBench.Proofs.Pattern.Surroundings
import SuiteBench.Proofs.Pattern.Trimming
import SuiteBench.Proofs.Report.Agreement
import SuiteBench.Proofs.Report.Cells
import SuiteBench.Proofs.Report.Checklist
import SuiteBench.Proofs.Report.Consistency
import SuiteBench.Proofs.Report.Counts
import SuiteBench.Proofs.Report.ErrorSummary
import SuiteBench.Proofs.Report.Evaluations
import SuiteBench.Proofs.Report.Evidence
import SuiteBench.Proofs.Report.Files
import SuiteBench.Proofs.Report.FirstRecords
import SuiteBench.Proofs.Report.Listed
import SuiteBench.Proofs.Report.LongForm
import SuiteBench.Proofs.Report.Missing
import SuiteBench.Proofs.Report.Narrative
import SuiteBench.Proofs.Report.Outputs
import SuiteBench.Proofs.Report.Overlay
import SuiteBench.Proofs.Report.Publication
import SuiteBench.Proofs.Report.Reading
import SuiteBench.Proofs.Report.Sections
import SuiteBench.Proofs.Report.Stats
import SuiteBench.Proofs.Report.Stopping
import SuiteBench.Proofs.Run.Documents
import SuiteBench.Proofs.Settings.Check
import SuiteBench.Proofs.Settings.Layers
import SuiteBench.Proofs.Store.Atomicity
import SuiteBench.Proofs.Store.Claims
import SuiteBench.Proofs.Store.Keeping
import SuiteBench.Proofs.Store.Listing
import SuiteBench.Proofs.Store.Ownership
import SuiteBench.Proofs.Store.Paths
import SuiteBench.Proofs.Store.Records
import SuiteBench.Proofs.Store.Rewriting
import SuiteBench.Proofs.Store.Sound
import SuiteBench.Proofs.Store.Sparing
import SuiteBench.Proofs.Store.Steps
import SuiteBench.Proofs.Store.Tree
import SuiteBench.Proofs.Store.Untouched
import SuiteBench.Proofs.Store.Within
import SuiteBench.Proofs.Suite.Calls
import SuiteBench.Proofs.Suite.Counts
import SuiteBench.Proofs.Suite.Coverage
import SuiteBench.Proofs.Suite.Merging
import SuiteBench.Proofs.Text.Markdown
import SuiteBench.Proofs.Text.Parts
import SuiteBench.Proofs.Text.Utf8
import SuiteBench.Proofs.Yaml.Reading
import SuiteBench.Report.Aggregate
import SuiteBench.Report.Checklist
import SuiteBench.Report.Collected
import SuiteBench.Report.Outputs
import SuiteBench.Report.Stats
import SuiteBench.Report.Summary
import SuiteBench.Report.Tables
import SuiteBench.Run.Diagnosis
import SuiteBench.Run.Halves
import SuiteBench.Run.Record
import SuiteBench.Settings.Basic
import SuiteBench.Settings.Check
import SuiteBench.Settings.LogFilter
import SuiteBench.Settings.Logging
import SuiteBench.Settings.Reader
import SuiteBench.Shell.Arithmetic
import SuiteBench.Shell.Builtins
import SuiteBench.Shell.Command
import SuiteBench.Shell.Evaluator
import SuiteBench.Shell.Fields
import SuiteBench.Shell.Format
import SuiteBench.Shell.Host
import SuiteBench.Shell.Lexis
import SuiteBench.Shell.Process
import SuiteBench.Shell.Reader
import SuiteBench.Shell.Regular
import SuiteBench.Shell.Utilities
import SuiteBench.Shell.Utilities.Callers
import SuiteBench.Shell.Utilities.Files
import SuiteBench.Shell.Utilities.Operands
import SuiteBench.Shell.Utilities.Search
import SuiteBench.Shell.Utilities.Tests
import SuiteBench.Shell.Utilities.Texts
import SuiteBench.Shell.Wildcard
import SuiteBench.Store.Claims
import SuiteBench.Store.Difference
import SuiteBench.Store.Layout
import SuiteBench.Store.Path
import SuiteBench.Store.Repository
import SuiteBench.Store.Tree
import SuiteBench.Suite.Analysis
import SuiteBench.Suite.Coverage
import SuiteBench.Text.Age
import SuiteBench.Text.Case
import SuiteBench.Text.Category
import SuiteBench.Text.Lines
import SuiteBench.Text.Property
import SuiteBench.Text.Ranges
import SuiteBench.Text.Script
import SuiteBench.Text.Utf8
import SuiteBench.Text.Word
import SuiteBench.Yaml.Decoder
import SuiteBench.Yaml.Node
import SuiteBench.Yaml.Printer
import SuiteBench.Yaml.Scalar
import SuiteBench.Yaml.Source
import SuiteBench.Yaml.Token
import SuiteBench.Yaml.Value
