import TruncIdiom.Collection.StableSort
import TruncIdiom.Rule.Truncation
import TruncIdiom.Syntax.Fault

/-!
Linting a source.

A linter has a parser, rules and a configuration. It walks the tree once and shows every node to the
checks that ask for its kind, rule by rule and entry by entry. A source whose tree has an error gets
one fatal message and no check runs. The messages are put in the order of their places; messages at
one place keep the order they were reported in.
-/

namespace TruncIdiom.Lint

open Text Syntax Rule

structure Linter where
  parser : Parser
  rules : List Rule
  config : Config

def defaultRules : List Rule := [truncationRule]

namespace Linter

def context (linter : Linter) (source : Bytes) : CheckContext :=
  ⟨source, linter.config.gettersCount⟩

/-- The diagnostics at one place, each with the rule it comes from. -/
def reportsAt (linter : Linter) (source : Bytes) (l : Location) :
    List (RuleInfo × Diagnostic) :=
  linter.rules.flatMap fun rule =>
    (rule.reportsAt (linter.context source) l).map fun d => (rule.info, d)

/-- The diagnostics of a tree, in the order they are found. -/
def reports (linter : Linter) (source : Bytes) (tree : Tree) : List (RuleInfo × Diagnostic) :=
  (Location.walk ⟨tree, []⟩).flatMap (linter.reportsAt source)

/-- The messages for a tree without errors, in the order they are found. -/
def found (linter : Linter) (source : Bytes) (tree : Tree) : List Message :=
  (linter.reports source tree).map fun (info, d) => d.message info source linter.config.level

/-- The messages for a source. -/
def messages (linter : Linter) (source : Bytes) : List Message :=
  if linter.config.enabled then
    let tree := linter.parser source
    match tree.firstFault? with
    | some node => [faultMessage node source]
    | none => Collection.stableSort Message.placeLe (linter.found source tree)
  else []

def rejects (linter : Linter) (source : Bytes) : Bool :=
  (linter.parser source).firstFault?.isSome

end Linter

/-! ## Results -/

/-- The path of a source that is no file. -/
def unnamed : String := "<input>"

structure LintResult where
  path : String
  messages : List Message := []
  deriving Repr

def LintResult.countAt (r : LintResult) (level : Level) : Nat :=
  r.messages.countP (·.level = level)

def LintResult.fixableCount (r : LintResult) : Nat := r.messages.countP (·.fix.isSome)

/-- Whether the source could not be read. -/
def LintResult.fatal (r : LintResult) : Bool := r.messages.any (·.fatal)

def Linter.lint (linter : Linter) (source : Bytes) (path : String) : LintResult :=
  ⟨path, linter.messages source⟩

end TruncIdiom.Lint
