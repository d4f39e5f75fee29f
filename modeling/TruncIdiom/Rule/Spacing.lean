import TruncIdiom.Rule.Check
import TruncIdiom.Syntax.Neighbour
import TruncIdiom.Syntax.Parentheses

/-!
Blanks around a replacement.

A replacement that begins with a letter must not run into a keyword that touched the node it stands
for. `keywordSpacing` inserts a blank on each side where a keyword touches the node together with
the parentheses around it.
-/

namespace TruncIdiom.Rule

open Syntax

/-- The edit that keeps a keyword in front apart, if one touches the node. -/
def spaceBefore (outer : Location) : Except EditError (List Edit) :=
  match outer.previousLeaf? with
  | some token =>
    if token.info.stop = outer.info.start ∧ token.info.isKeyword then
      return [← insertAfter token.info " "]
    else return []
  | none => return []

def spaceAfter (outer : Location) : Except EditError (List Edit) :=
  match outer.nextLeaf? with
  | some token =>
    if token.info.start = outer.info.stop ∧ token.info.isKeyword then
      return [← insertBefore token.info " "]
    else return []
  | none => return []

/-- The edits that keep the keywords around a node apart from what replaces it. -/
def keywordSpacing (l : Location) : Except EditError (List Edit) := do
  let outer := l.outermost
  let before ← spaceBefore outer
  let after ← spaceAfter outer
  return before ++ after

end TruncIdiom.Rule
