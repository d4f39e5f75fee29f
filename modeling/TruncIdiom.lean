import TruncIdiom.Collection.Entries
import TruncIdiom.Collection.StableSort
import TruncIdiom.Text.Blank
import TruncIdiom.Text.Case
import TruncIdiom.Text.CharRun
import TruncIdiom.Text.Letter
import TruncIdiom.Text.Lines
import TruncIdiom.Text.Pattern
import TruncIdiom.Text.Position
import TruncIdiom.Text.Printable
import TruncIdiom.Text.Quoted
import TruncIdiom.Text.Slice
import TruncIdiom.Text.Utf8
import TruncIdiom.Decimal.Binary64
import TruncIdiom.Decimal.Shortest
import TruncIdiom.Json.Reader
import TruncIdiom.Json.Value
import TruncIdiom.Edit.Basic
import TruncIdiom.Edit.Batch
import TruncIdiom.Edit.Script
import TruncIdiom.Edit.Selection
import TruncIdiom.Syntax.Covering
import TruncIdiom.Syntax.Fault
import TruncIdiom.Syntax.Location
import TruncIdiom.Syntax.Neighbour
import TruncIdiom.Syntax.Parentheses
import TruncIdiom.Syntax.Tree
import TruncIdiom.Syntax.Walk
import TruncIdiom.Script.Expression
import TruncIdiom.Script.Function
import TruncIdiom.Script.Lexer
import TruncIdiom.Script.Parsing
import TruncIdiom.Script.Pattern
import TruncIdiom.Script.Piece
import TruncIdiom.Script.Program
import TruncIdiom.Script.Statement
import TruncIdiom.Script.Token
import TruncIdiom.Rule.Catalogue
import TruncIdiom.Rule.Check
import TruncIdiom.Rule.Diagnostic
import TruncIdiom.Rule.Message
import TruncIdiom.Rule.SideEffect
import TruncIdiom.Rule.Spacing
import TruncIdiom.Rule.Template
import TruncIdiom.Rule.Truncation
import TruncIdiom.Lint.Config
import TruncIdiom.Lint.Fixing
import TruncIdiom.Lint.Linting
import TruncIdiom.Workspace.FileBatch
import TruncIdiom.Workspace.FileLinting
import TruncIdiom.Workspace.FileMap
import TruncIdiom.Workspace.Path
import TruncIdiom.Workspace.Window
import TruncIdiom.Session.Basic
import TruncIdiom.Session.Call
import TruncIdiom.Session.ConfigFile
import TruncIdiom.Session.Culprit
import TruncIdiom.Session.Lookup
import TruncIdiom.Session.Mark
import TruncIdiom.Session.Repair
import TruncIdiom.Session.Report
import TruncIdiom.Session.Setup
import TruncIdiom.Proofs.Collection.StableSort
import TruncIdiom.Proofs.Text.Slice
import TruncIdiom.Proofs.Text.Utf8
import TruncIdiom.Proofs.Text.IllFormed
import TruncIdiom.Proofs.Text.Position
import TruncIdiom.Proofs.Text.Lines
import TruncIdiom.Proofs.Text.ScreenLines
import TruncIdiom.Proofs.Text.Pattern
import TruncIdiom.Proofs.Syntax.Tree
import TruncIdiom.Proofs.Syntax.Walk
import TruncIdiom.Proofs.Syntax.Fault
import TruncIdiom.Proofs.Syntax.Location
import TruncIdiom.Proofs.Syntax.Preorder
import TruncIdiom.Proofs.Syntax.Layout
import TruncIdiom.Proofs.Syntax.Operand
import TruncIdiom.Proofs.Syntax.Parentheses
import TruncIdiom.Proofs.Syntax.Unwrapping
import TruncIdiom.Proofs.Syntax.Covering
import TruncIdiom.Proofs.Syntax.Neighbour
import TruncIdiom.Proofs.Edit.Script
import TruncIdiom.Proofs.Edit.Merging
import TruncIdiom.Proofs.Edit.Acceptance
import TruncIdiom.Proofs.Edit.Replacement
import TruncIdiom.Proofs.Edit.Batch
import TruncIdiom.Proofs.Edit.InsertionOrder
import TruncIdiom.Proofs.Edit.Selection
import TruncIdiom.Proofs.Rule.AppliedFixes
import TruncIdiom.Proofs.Rule.EffectSearch
import TruncIdiom.Proofs.Rule.Idiom
import TruncIdiom.Proofs.Rule.Rewrite
import TruncIdiom.Proofs.Rule.Reports
import TruncIdiom.Proofs.Rule.WholeScripts
import TruncIdiom.Proofs.Rule.Rendering
import TruncIdiom.Proofs.Lint.Messages
import TruncIdiom.Proofs.Lint.Faults
import TruncIdiom.Proofs.Lint.Passes
import TruncIdiom.Proofs.Lint.Exactness
import TruncIdiom.Proofs.Lint.MessageRanges
import TruncIdiom.Proofs.Lint.ComplementChains
import TruncIdiom.Proofs.Lint.RewriteEffect
import TruncIdiom.Proofs.Lint.RewrittenLines
import TruncIdiom.Proofs.Lint.CarriedRecords
import TruncIdiom.Proofs.Lint.Rerun
import TruncIdiom.Proofs.Lint.RuleIndependence
import TruncIdiom.Proofs.Lint.Getters
import TruncIdiom.Proofs.Lint.Severity
import TruncIdiom.Proofs.Lint.Config
import TruncIdiom.Proofs.Lint.KeySpelling
import TruncIdiom.Proofs.Lint.Dictionary
import TruncIdiom.Proofs.Workspace.FileMap
import TruncIdiom.Proofs.Workspace.Window
import TruncIdiom.Proofs.Workspace.NearLines
import TruncIdiom.Proofs.Workspace.FixedFile
import TruncIdiom.Proofs.Workspace.FileBatch
import TruncIdiom.Proofs.Workspace.SentEdits
import TruncIdiom.Proofs.Workspace.BatchFaults
import TruncIdiom.Proofs.Session.Outcome
import TruncIdiom.Proofs.Session.FileSafety
import TruncIdiom.Proofs.Session.Marks
import TruncIdiom.Proofs.Session.LifeCycle
import TruncIdiom.Proofs.Session.Setup
import TruncIdiom.Proofs.Session.Confirmation
import TruncIdiom.Proofs.Session.Preview
import TruncIdiom.Proofs.Session.SingleFix
import TruncIdiom.Proofs.Session.Sweep
import TruncIdiom.Proofs.Session.DryRun
import TruncIdiom.Proofs.Session.Respelling
import TruncIdiom.Proofs.Session.Culprit
