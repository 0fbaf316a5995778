import MatchingDecomp.Binary.Format
import MatchingDecomp.Binary.Single
import MatchingDecomp.CommandLine.Basic
import MatchingDecomp.CommandLine.Options
import MatchingDecomp.Compilation.Basic
import MatchingDecomp.Compilation.Outcome
import MatchingDecomp.Compilation.StandIn
import MatchingDecomp.Compilation.Toolchain
import MatchingDecomp.Config.Backends
import MatchingDecomp.Config.Basic
import MatchingDecomp.Config.Environment
import MatchingDecomp.Config.Json
import MatchingDecomp.Decimal.Digits
import MatchingDecomp.Decimal.Shortest
import MatchingDecomp.Decompile
import MatchingDecomp.Digest.Sha256
import MatchingDecomp.Fragment.Basic
import MatchingDecomp.Fragment.Identifier
import MatchingDecomp.Generation.Basic
import MatchingDecomp.Generation.Remote
import MatchingDecomp.Generation.Template
import MatchingDecomp.Host.FileTree
import MatchingDecomp.Host.Http
import MatchingDecomp.Host.Machine
import MatchingDecomp.Host.OsError
import MatchingDecomp.Host.Path
import MatchingDecomp.Host.Program
import MatchingDecomp.Json.Numeral
import MatchingDecomp.Json.Reader
import MatchingDecomp.Json.Record
import MatchingDecomp.Json.Value
import MatchingDecomp.Json.Writer
import MatchingDecomp.Main
import MatchingDecomp.Pipeline.Event
import MatchingDecomp.Pipeline.Failure
import MatchingDecomp.Pipeline.RunState
import MatchingDecomp.Pipeline.Session
import MatchingDecomp.Pipeline.Stage
import MatchingDecomp.Proofs.Session.ActiveRuns
import MatchingDecomp.Proofs.Session.Calls
import MatchingDecomp.Proofs.Session.Command
import MatchingDecomp.Proofs.Session.Consistency
import MatchingDecomp.Proofs.Session.Course
import MatchingDecomp.Proofs.Session.Effect
import MatchingDecomp.Proofs.Session.Execution
import MatchingDecomp.Proofs.Session.History
import MatchingDecomp.Proofs.Session.Lifecycle
import MatchingDecomp.Proofs.Session.Minutes
import MatchingDecomp.Proofs.Session.Tickets
import MatchingDecomp.Proofs.Session.Walk
import MatchingDecomp.Proofs.Source.Tokens
import MatchingDecomp.Report.Basic
import MatchingDecomp.Report.Save
import MatchingDecomp.Run.Basic
import MatchingDecomp.Run.Id
import MatchingDecomp.Run.Json
import MatchingDecomp.Run.Store
import MatchingDecomp.Run.Summary
import MatchingDecomp.Source.Brackets
import MatchingDecomp.State.Part
import MatchingDecomp.Text.Blank
import MatchingDecomp.Text.CaseTables
import MatchingDecomp.Text.Lines
import MatchingDecomp.Text.Lower
import MatchingDecomp.Text.Search
import MatchingDecomp.Text.Utf8
import MatchingDecomp.Text.Word
import MatchingDecomp.Time.Instant
import MatchingDecomp.Time.Span
import MatchingDecomp.Verification.Basic
import MatchingDecomp.Verification.Category
import MatchingDecomp.Verification.DiffReport
import MatchingDecomp.Verification.Heuristic
import MatchingDecomp.Verification.ObjectDiff
import MatchingDecomp.Verification.Percentage
import MatchingDecomp.Verification.Verdict
import MatchingDecomp.Proofs.Source.Balance
import MatchingDecomp.Proofs.Decompile.Basic
import MatchingDecomp.Proofs.Decompile.Default
import MatchingDecomp.Proofs.Session.Announcements
import MatchingDecomp.Proofs.Session.Progress
import MatchingDecomp.Proofs.Decimal.Digits
import MatchingDecomp.Proofs.Run.Id
import MatchingDecomp.Proofs.Session.Ids
import MatchingDecomp.Proofs.Host.Machine
import MatchingDecomp.Proofs.Compilation.Toolchain
import MatchingDecomp.Proofs.Compilation.Invocations
import MatchingDecomp.Proofs.Session.Identical
import MatchingDecomp.Proofs.Json.Reading
import MatchingDecomp.Proofs.Json.RoundTrip
import MatchingDecomp.Proofs.Host.FileTree
import MatchingDecomp.Proofs.Verification.Reference
import MatchingDecomp.Proofs.Fragment.Extraction
import MatchingDecomp.Proofs.Report.Save
import MatchingDecomp.Proofs.CommandLine.Agreement
import MatchingDecomp.Proofs.Binary.Rounding
import MatchingDecomp.Proofs.Verification.Percentage
import MatchingDecomp.Proofs.Verification.Match
import MatchingDecomp.Proofs.Verification.Score
import MatchingDecomp.Proofs.Source.Removal
import MatchingDecomp.Proofs.Generation.Annotation
import MatchingDecomp.Proofs.Source.Insertion
import MatchingDecomp.Proofs.Generation.Refinement
import MatchingDecomp.Proofs.Config.File
import MatchingDecomp.Proofs.Verification.Threshold
import MatchingDecomp.Proofs.Text.Lines
import MatchingDecomp.Proofs.Verification.Classification
import MatchingDecomp.Proofs.Report.Structure
import MatchingDecomp.Proofs.Compilation.FinishedRun
import MatchingDecomp.Proofs.Text.Blank
import MatchingDecomp.Proofs.Generation.LineEndings
import MatchingDecomp.Proofs.Config.Environment
import MatchingDecomp.Proofs.CommandLine.Options
import MatchingDecomp.Proofs.Config.Backends
