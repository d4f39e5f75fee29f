import TruncIdiom.Syntax.Location
import TruncIdiom.Text.Case
import TruncIdiom.Text.Letter

/-!
The tokens next to a node.

`Location.previousLeaf?` and `Location.nextLeaf?` find the leaf just before and just after a node,
comments included. They go up to the nearest ancestor that has a sibling of any width on the side
asked for, and down to the leaf of that sibling that is nearest. Nodes without width are passed
over.
-/

namespace TruncIdiom.Syntax

inductive Side where
  | before
  | after
  deriving DecidableEq, Repr

namespace Location

/-- The children that cover a byte. -/
def wideChildren (l : Location) : List Location := l.children.filter (·.info.hasWidth)

def endOf? (side : Side) (ls : List Location) : Option Location :=
  match side with
  | .before => ls.getLast?
  | .after => ls.head?

/-- Goes down at most `fuel` levels, to the last child each time when looking `before` a node and
to the first when looking `after`. -/
def edgeLeafFrom (side : Side) : Nat → Location → Location
  | 0, l => l
  | fuel + 1, l =>
    match endOf? side l.wideChildren with
    | some child => edgeLeafFrom side fuel child
    | none => l

/-- The leaf at one end of a tree. A tree has no more levels than nodes. -/
def edgeLeaf (side : Side) (l : Location) : Location := edgeLeafFrom side l.tree.size l

/-- The nearest place of any width among `near`, which stand in this order next to `t` with `far`
behind it. The result is that tree, what lies beyond it, and what lies on this side of it. -/
def nearestWide (t : Tree) (far : List Tree) : List Tree → Option (Tree × List Tree × List Tree)
  | [] => none
  | s :: near =>
    if s.info.hasWidth then some (s, near, t :: far) else nearestWide s (t :: far) near

def wideSibling? (side : Side) (t : Tree) (f : Frame) (above : List Frame) : Option Location :=
  match side with
  | .before =>
    (nearestWide t f.after f.before).map fun (s, before, after) =>
      ⟨s, ⟨f.parent, before, after⟩ :: above⟩
  | .after =>
    (nearestWide t f.before f.after).map fun (s, after, before) =>
      ⟨s, ⟨f.parent, before, after⟩ :: above⟩

def neighbourIn (side : Side) (t : Tree) : List Frame → Option Location
  | [] => none
  | f :: above =>
    match wideSibling? side t f above with
    | some sibling => some (edgeLeaf side sibling)
    | none => neighbourIn side (f.plug t) above

def previousLeaf? (l : Location) : Option Location := neighbourIn .before l.tree l.above

def nextLeaf? (l : Location) : Option Location := neighbourIn .after l.tree l.above

end Location

/-- Whether a node is a keyword: a fixed token of letters, all of them small. -/
def NodeInfo.isKeyword (info : NodeInfo) : Bool :=
  !info.named && info.kind ≠ "" && info.kind.toList.all Text.isLetter && Text.isSmallText info.kind

end TruncIdiom.Syntax
