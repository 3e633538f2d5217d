import ScriptKeeper.Command.Arguments
import ScriptKeeper.Command.Line
import ScriptKeeper.Command.LogFormat
import ScriptKeeper.Command.Run
import ScriptKeeper.Diagnostics
import ScriptKeeper.Files.Canonical
import ScriptKeeper.Files.Error
import ScriptKeeper.Files.Path
import ScriptKeeper.Files.Tree
import ScriptKeeper.Files.Write
import ScriptKeeper.Inspection.Arena
import ScriptKeeper.Inspection.Cut
import ScriptKeeper.Inspection.Edit
import ScriptKeeper.Inspection.Error
import ScriptKeeper.Inspection.Handle
import ScriptKeeper.Inspection.Lock
import ScriptKeeper.Inspection.Query
import ScriptKeeper.Inspection.Registry
import ScriptKeeper.Inspection.Segment
import ScriptKeeper.Inspection.Session
import ScriptKeeper.Inspection.Settings
import ScriptKeeper.Inspection.Trial
import ScriptKeeper.Inspection.Workspace
import ScriptKeeper.Json.Printer
import ScriptKeeper.Json.Reader
import ScriptKeeper.Json.Value
import ScriptKeeper.Main
import ScriptKeeper.Pattern.Basic
import ScriptKeeper.Pattern.Expr
import ScriptKeeper.Pattern.Notation
import ScriptKeeper.Pattern.Program
import ScriptKeeper.Pattern.Reader
import ScriptKeeper.Pattern.Search
import ScriptKeeper.Proofs.Action
import ScriptKeeper.Proofs.Files.Follow
import ScriptKeeper.Scan.Folder
import ScriptKeeper.Scan.Hit
import ScriptKeeper.Scan.Listing
import ScriptKeeper.Scan.Report
import ScriptKeeper.Scan.Scanner
import ScriptKeeper.Scan.Script
import ScriptKeeper.Scan.Violation
import ScriptKeeper.Settings.Basic
import ScriptKeeper.Settings.Document
import ScriptKeeper.Settings.File
import ScriptKeeper.Settings.Rule
import ScriptKeeper.Settings.Stock
import ScriptKeeper.Template.Basic
import ScriptKeeper.Template.Error
import ScriptKeeper.Template.Render
import ScriptKeeper.Template.Script
import ScriptKeeper.Template.Token
import ScriptKeeper.Text.Bytes
import ScriptKeeper.Text.LineEnding
import ScriptKeeper.Text.Lines
import ScriptKeeper.Text.Quoted
import ScriptKeeper.Unicode.Age
import ScriptKeeper.Unicode.Break
import ScriptKeeper.Unicode.CaseFold
import ScriptKeeper.Unicode.Category
import ScriptKeeper.Unicode.CharSet
import ScriptKeeper.Unicode.Class
import ScriptKeeper.Unicode.Lookup
import ScriptKeeper.Unicode.NamedSet
import ScriptKeeper.Unicode.Property
import ScriptKeeper.Unicode.Script
import ScriptKeeper.Proofs.Files.Target
import ScriptKeeper.Proofs.Files.Write
import ScriptKeeper.Proofs.Inspection.Cut
import ScriptKeeper.Proofs.Pattern.Order
import ScriptKeeper.Proofs.Inspection.Arena
import ScriptKeeper.Proofs.Inspection.Operation
import ScriptKeeper.Proofs.Inspection.Query
import ScriptKeeper.Proofs.Inspection.Draft
import ScriptKeeper.Proofs.Inspection.Edit
import ScriptKeeper.Proofs.Inspection.Step
import ScriptKeeper.Proofs.Inspection.Sequence
import ScriptKeeper.Proofs.Inspection.Session
import ScriptKeeper.Proofs.Inspection.Commit
import ScriptKeeper.Proofs.Files.Atomic
import ScriptKeeper.Proofs.Inspection.Registry
import ScriptKeeper.Proofs.Inspection.World
import ScriptKeeper.Proofs.Inspection.Locks
import ScriptKeeper.Proofs.Inspection.Coherence
import ScriptKeeper.Proofs.Inspection.Failure
import ScriptKeeper.Proofs.Inspection.Generation
import ScriptKeeper.Proofs.Inspection.Handle
import ScriptKeeper.Proofs.Inspection.Lifetime
import ScriptKeeper.Proofs.Inspection.Listing
import ScriptKeeper.Proofs.Scan.Hit
import ScriptKeeper.Proofs.Scan.Reading
import ScriptKeeper.Proofs.Scan.Script
import ScriptKeeper.Proofs.Settings.RuleIds
import ScriptKeeper.Proofs.Inspection.Phase
import ScriptKeeper.Proofs.Json.RoundTrip
import ScriptKeeper.Proofs.Settings.Document
import ScriptKeeper.Proofs.Settings.Saving
import ScriptKeeper.Proofs.Pattern.Search
import ScriptKeeper.Proofs.Template.Token
import ScriptKeeper.Proofs.Files.Join
import ScriptKeeper.Proofs.Template.Render
import ScriptKeeper.Proofs.Template.Script
import ScriptKeeper.Proofs.Inspection.Pieces
import ScriptKeeper.Proofs.Pattern.Groups
import ScriptKeeper.Proofs.Inspection.Decomposition
import ScriptKeeper.Proofs.Command.ScanTarget
import ScriptKeeper.Proofs.Scan.Trace
import ScriptKeeper.Proofs.Command.Outcome
import ScriptKeeper.Proofs.Text.LineEnding
import ScriptKeeper.Proofs.Settings.Numbering
import ScriptKeeper.Proofs.Template.Substitution
import ScriptKeeper.Proofs.Inspection.Lines
import ScriptKeeper.Proofs.Inspection.OneMatch
import ScriptKeeper.Proofs.Scan.Listing
import ScriptKeeper.Proofs.Scan.Failure
import ScriptKeeper.Proofs.Scan.Documentation
import ScriptKeeper.Proofs.Pattern.Capture
import ScriptKeeper.Proofs.Scan.Naming
import ScriptKeeper.Proofs.Text.ByteOrder
import ScriptKeeper.Proofs.Settings.Partial
import ScriptKeeper.Proofs.Template.Discovery
import ScriptKeeper.Proofs.Pattern.Successive
import ScriptKeeper.Proofs.Inspection.Trial
