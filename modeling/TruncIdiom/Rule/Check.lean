import TruncIdiom.Rule.Message
import TruncIdiom.Syntax.Location

/-!
Rules and their checks.

A rule is its description and a table of entries, each a check with the kinds of node it is to see.
A check looks at one place of the tree. It may report any number of diagnostics and may fail after
any of them; what it reported before it failed stands.
-/

namespace TruncIdiom

open Text Syntax

namespace Rule

structure CheckContext where
  source : Bytes
  gettersCount : Bool := false
  deriving Repr

def CheckContext.text (ctx : CheckContext) (l : Location) : String := l.info.text ctx.source

inductive CheckFailure where
  | edits (e : EditError)
  | other
  deriving DecidableEq, Repr

/-- What a check reported, and whether it gave up after that. -/
structure CheckRun where
  reported : List Diagnostic := []
  failure : Option CheckFailure := none
  deriving Repr

def CheckRun.quiet : CheckRun := {}

/-- A check that reports one diagnostic, or gives up because its edits are refused. -/
def CheckRun.ofReport : Except EditError Diagnostic → CheckRun
  | .ok d => { reported := [d] }
  | .error e => { failure := some (.edits e) }

abbrev Check := CheckContext → Location → CheckRun

/-- A check and the kinds of node it sees. A kind listed twice is seen twice. -/
structure Entry where
  kinds : List String
  check : Check

end Rule

structure Rule where
  info : Rule.RuleInfo
  entries : List Rule.Entry

namespace Rule

def checksFor (rule : Rule) (kind : String) : List Check :=
  rule.entries.flatMap fun entry => (entry.kinds.filter (· = kind)).map fun _ => entry.check

/-- What a rule reports at one place. -/
def reportsAt (rule : Rule) (ctx : CheckContext) (l : Location) : List Diagnostic :=
  (rule.checksFor l.kind).flatMap fun check => (check ctx l).reported

/-! ## Edits at a node -/

def replaceNode (node : NodeInfo) (text : String) : Except EditError Edit :=
  Edit.make node.start node.stop text

def insertBefore (node : NodeInfo) (text : String) : Except EditError Edit :=
  Edit.make node.start node.start text

def insertAfter (node : NodeInfo) (text : String) : Except EditError Edit :=
  Edit.make node.stop node.stop text

end Rule

end TruncIdiom
