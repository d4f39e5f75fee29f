import TruncIdiom.Syntax.Walk

/-!
Where a tree says that its source is not well formed.
-/

namespace TruncIdiom.Syntax

/-- The node to report for a tree with an error: the first in preorder that is an error node or a
missing one, or the top when errors are only flagged. -/
def Tree.firstFault? (t : Tree) : Option NodeInfo :=
  if t.hasError then
    match (Location.walk ⟨t, []⟩).find? (·.tree.isFault) with
    | some l => some l.info
    | none => some t.info
  else none

end TruncIdiom.Syntax
