import Mend.Cli.Arguments
import Mend.Cli.Output
import Mend.Cli.Request
import Mend.Cli.Run
import Mend.Config.Basic
import Mend.Config.Document
import Mend.Count
import Mend.CycleId
import Mend.Decimal.Shortest
import Mend.Decimal.Text
import Mend.Diff
import Mend.Diff.Document
import Mend.Digest.Basic
import Mend.Digest.Blake3
import Mend.Digest.Framed
import Mend.Digest.Sha256
import Mend.Digest.Words
import Mend.Engine.Batch
import Mend.Engine.Budget
import Mend.Engine.Cycle
import Mend.Engine.Decision
import Mend.Engine.Error
import Mend.Engine.Learning
import Mend.Engine.Phase
import Mend.Engine.Report
import Mend.Engine.Scoring
import Mend.Engine.Tools
import Mend.Engine.Verification
import Mend.Engine.Workspace
import Mend.Fs.Action
import Mend.Fs.Disk
import Mend.Fs.Error
import Mend.Fs.Place
import Mend.Fs.Tree
import Mend.Issue
import Mend.Json.Basic
import Mend.Json.Parser
import Mend.Json.Printer
import Mend.Json.Stored
import Mend.Ledger.Attestation
import Mend.Ledger.Error
import Mend.Ledger.Files
import Mend.Ledger.History
import Mend.Ledger.Layout
import Mend.Ledger.Outcome
import Mend.Ledger.Snapshot
import Mend.Ledger.Trust
import Mend.Main
import Mend.Ordered
import Mend.Path
import Mend.Posix.Bracket
import Mend.Posix.Glob
import Mend.Posix.Regular
import Mend.Proofs.Action
import Mend.Proofs.Cli.Enclosure
import Mend.Proofs.Cli.Updates
import Mend.Proofs.CycleId
import Mend.Proofs.Diff.NormalForm
import Mend.Proofs.Diff.Replay
import Mend.Proofs.Digest
import Mend.Proofs.Digits
import Mend.Proofs.Engine.Accounting
import Mend.Proofs.Engine.Admission
import Mend.Proofs.Engine.Batch
import Mend.Proofs.Engine.Books
import Mend.Proofs.Engine.Course
import Mend.Proofs.Engine.Cycle
import Mend.Proofs.Engine.Enclosure
import Mend.Proofs.Engine.Exactness
import Mend.Proofs.Engine.Grouping
import Mend.Proofs.Engine.LineBudget
import Mend.Proofs.Engine.ReportOrder
import Mend.Proofs.Engine.RiskBudget
import Mend.Proofs.Engine.Selection
import Mend.Proofs.Engine.Sharing
import Mend.Proofs.Engine.Turn
import Mend.Proofs.Engine.UndoStack
import Mend.Proofs.Engine.Writing
import Mend.Proofs.Fs.Beside
import Mend.Proofs.Fs.Change
import Mend.Proofs.Fs.Inversion
import Mend.Proofs.Fs.Listing
import Mend.Proofs.Fs.View
import Mend.Proofs.Json.Numeral
import Mend.Proofs.Json.Record
import Mend.Proofs.Json.Spelling
import Mend.Proofs.Ledger.AtomicWrite
import Mend.Proofs.Ledger.AttestationChain
import Mend.Proofs.Ledger.DamagedLog
import Mend.Proofs.Ledger.FirstBadLine
import Mend.Proofs.Ledger.Growth
import Mend.Proofs.Ledger.HistoryLog
import Mend.Proofs.Ledger.Obstructed
import Mend.Proofs.Ledger.Planning
import Mend.Proofs.Ledger.ReadBack
import Mend.Proofs.Ledger.Restore
import Mend.Proofs.Ledger.RestoreBeside
import Mend.Proofs.Ledger.RestoreSafety
import Mend.Proofs.Ledger.RetentionWindow
import Mend.Proofs.Ledger.SnapshotDirectory
import Mend.Proofs.Ledger.SnapshotStore
import Mend.Proofs.Ledger.Spared
import Mend.Proofs.Ledger.Standing
import Mend.Proofs.Ledger.StateFiles
import Mend.Proofs.Ledger.StatePlace
import Mend.Proofs.Ledger.StoreEquivalence
import Mend.Proofs.Ledger.TamperEvidence
import Mend.Proofs.Ledger.TidyDirectory
import Mend.Proofs.Ledger.TrustAverage
import Mend.Proofs.Ledger.UnwrittenTrust
import Mend.Proofs.Ledger.WriteFrame
import Mend.Proofs.Path
import Mend.Proofs.Path.Resolve
import Mend.Proofs.Recipe.Blanks
import Mend.Proofs.Recipe.Span
import Mend.Proofs.Text
import Mend.Proofs.Text.Lossy
import Mend.Proofs.Time.Calendar
import Mend.Proofs.Time.Text
import Mend.Recipe.Basic
import Mend.Recipe.Patch
import Mend.Recipe.Registry
import Mend.Recipe.Span
import Mend.Recipe.Substitution
import Mend.Regex.Bracket
import Mend.Regex.Bytes
import Mend.Regex.Escape
import Mend.Regex.Parser
import Mend.Regex.Pattern
import Mend.Regex.Search
import Mend.Regex.Size
import Mend.Regex.Syntax
import Mend.Shell.Arithmetic
import Mend.Shell.Awk.Parser
import Mend.Shell.Awk.Run
import Mend.Shell.Awk.Syntax
import Mend.Shell.Awk.Value
import Mend.Shell.Builtin
import Mend.Shell.Expansion
import Mend.Shell.Format
import Mend.Shell.Options
import Mend.Shell.Parser
import Mend.Shell.Process
import Mend.Shell.Program
import Mend.Shell.Run
import Mend.Shell.Syntax
import Mend.Shell.Utility.Basic
import Mend.Shell.Utility.Column
import Mend.Shell.Utility.Compare
import Mend.Shell.Utility.Edit
import Mend.Shell.Utility.File
import Mend.Shell.Utility.Find
import Mend.Shell.Utility.Line
import Mend.Shell.Utility.Print
import Mend.Shell.Utility.Search
import Mend.Shell.Utility.Sort
import Mend.Shell.Utility.Sum
import Mend.Shell.Utility.Test
import Mend.Text.Blank
import Mend.Text.Hex
import Mend.Text.Lines
import Mend.Text.Utf8
import Mend.Time
import Mend.Toml.Parser
import Mend.Toml.Scalar
import Mend.Toml.Table
import Mend.Unicode.Age
import Mend.Unicode.Break
import Mend.Unicode.Category
import Mend.Unicode.CategoryTable
import Mend.Unicode.CharSet
import Mend.Unicode.Fold
import Mend.Unicode.Name
import Mend.Unicode.Property
import Mend.Unicode.PropertyTable
import Mend.Unicode.Script
import Mend.Unicode.Table
