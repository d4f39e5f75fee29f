import TruncIdiom.Rule.Truncation
import TruncIdiom.Session.Lookup
import TruncIdiom.Syntax.Covering

/-!
Why a diagnostic has no fix.

An assignment whose target has a side effect is reported without one. The node it was reported on is
found again by its span, and the effect in its target is named.
-/

namespace TruncIdiom.Session

open Text Syntax Rule Lint Workspace

def isAssignmentAt (start stop : Nat) (info : NodeInfo) : Bool :=
  info.kind = compoundAssignment && info.start = start && info.stop = stop

/-- The target of the compound assignment with a given span, without parentheses. -/
def assignmentTarget? (root : Tree) (start stop : Nat) : Option Location :=
  (((Location.narrowed ⟨root, []⟩ start stop).enclosing? (isAssignmentAt start stop)).bind
    fun l => l.operand? "left")

/-- The text of the side effect in the target of the assignment that a message is about, or
nothing. -/
def culpritIn (parser : Parser) (config : Config) (source : Bytes) (m : Message) : String :=
  match assignmentTarget? (parser source) m.start m.stop with
  | some target => describeSideEffect source config.gettersCount target.tree
  | none => ""

def culprit (s : Session) (parser : Parser) (root : Root) (path : String) (m : Message) :
    String :=
  match s.files.readSource? (root.resolve path) with
  | some source => culpritIn parser s.config source m
  | none => ""

def noFixReason (s : Session) (parser : Parser) (root : Root) (path : String)
    (m : Message) : String :=
  match m.suggestions with
  | suggestion :: _ =>
    "This diagnostic only carries a suggestion (\"" ++ suggestion.description ++
      "\"). Call `apply_fix` with `accept_suggestion=True` to apply it."
  | [] =>
    let culprit := s.culprit parser root path m
    let detail := if culprit = "" then "" else " (`" ++ culprit ++ "`)"
    "No fix is offered: the assignment target has side effects" ++ detail ++
      ", so restating it in `Math.trunc(...)` would evaluate it twice."

end TruncIdiom.Session
