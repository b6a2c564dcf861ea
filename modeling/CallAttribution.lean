import CallAttribution.Artifact
import CallAttribution.Assignment
import CallAttribution.Batch
import CallAttribution.Binary64
import CallAttribution.CallSite
import CallAttribution.CommandLine.Environment
import CallAttribution.CommandLine.Grammar
import CallAttribution.CommandLine.Invocation
import CallAttribution.CommandLine.Run
import CallAttribution.Config
import CallAttribution.Engine
import CallAttribution.FileTree
import CallAttribution.Generation
import CallAttribution.Heuristic
import CallAttribution.Heuristic.Builtin
import CallAttribution.Heuristic.Chain
import CallAttribution.Heuristic.Exposure
import CallAttribution.Heuristic.Naming
import CallAttribution.Input
import CallAttribution.Json.Basic
import CallAttribution.Json.Numeral
import CallAttribution.Json.Reader
import CallAttribution.Main
import CallAttribution.Path
import CallAttribution.Project
import CallAttribution.Proofs.Acceptance
import CallAttribution.Proofs.Accounting
import CallAttribution.Proofs.Agreement
import CallAttribution.Proofs.Artifact
import CallAttribution.Proofs.Assignment
import CallAttribution.Proofs.Cancellation
import CallAttribution.Proofs.ChainEnd
import CallAttribution.Proofs.Clean
import CallAttribution.Proofs.CommandLine.ConfiguredPlace
import CallAttribution.Proofs.CommandLine.Counts
import CallAttribution.Proofs.CommandLine.Frame
import CallAttribution.Proofs.CommandLine.Pipeline
import CallAttribution.Proofs.CommandLine.Refusal
import CallAttribution.Proofs.CommandLine.ResolveRun
import CallAttribution.Proofs.CommandLine.Tracing
import CallAttribution.Proofs.Containment
import CallAttribution.Proofs.Continuation
import CallAttribution.Proofs.Course
import CallAttribution.Proofs.Criterion
import CallAttribution.Proofs.Delivery
import CallAttribution.Proofs.Deviation
import CallAttribution.Proofs.Evidence
import CallAttribution.Proofs.Exposure
import CallAttribution.Proofs.FailedWrite
import CallAttribution.Proofs.Independence
import CallAttribution.Proofs.Json.Layout
import CallAttribution.Proofs.Json.OneLine
import CallAttribution.Proofs.Json.RoundTrip
import CallAttribution.Proofs.Json.Token
import CallAttribution.Proofs.Likeness
import CallAttribution.Proofs.Loading
import CallAttribution.Proofs.Opening
import CallAttribution.Proofs.Pacing
import CallAttribution.Proofs.Participation
import CallAttribution.Proofs.Precedence
import CallAttribution.Proofs.Presentation
import CallAttribution.Proofs.Project
import CallAttribution.Proofs.Ranking
import CallAttribution.Proofs.Registration
import CallAttribution.Proofs.Reproduction
import CallAttribution.Proofs.Selection
import CallAttribution.Proofs.Tally
import CallAttribution.Proofs.Text.Lines
import CallAttribution.Proofs.Text.Numeral
import CallAttribution.Proofs.Text.Word
import CallAttribution.Proofs.Toml.Digits
import CallAttribution.Proofs.Trace
import CallAttribution.Published
import CallAttribution.Record
import CallAttribution.Reporter
import CallAttribution.Routine
import CallAttribution.Schema.Checked
import CallAttribution.Schema.Report
import CallAttribution.Schema.Scalar
import CallAttribution.Schema.Shape
import CallAttribution.Signature
import CallAttribution.Snapshot
import CallAttribution.Table
import CallAttribution.Text.Letter
import CallAttribution.Text.Word
import CallAttribution.Text.Basic
import CallAttribution.Text.Quoted
import CallAttribution.Toml.Definition
import CallAttribution.Toml.Reader
import CallAttribution.Toml.Scalar
import CallAttribution.Validation
import CallAttribution.Value
import CallAttribution.Verification
