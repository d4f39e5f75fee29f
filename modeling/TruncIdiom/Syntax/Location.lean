import TruncIdiom.Syntax.Tree

/-!
Places in a tree.

A location is a tree together with all that surrounds it: from the inside out, the parent of each
step with the siblings on either side. So a place knows its parent, its siblings and its children,
and equal locations are the same place of the same tree.
-/

namespace TruncIdiom.Syntax

/-- What surrounds a tree below its parent: the siblings before it, nearest first, and those
after it. -/
structure Frame where
  parent : NodeInfo
  before : List Tree
  after : List Tree
  deriving Repr

/-- The parent with a tree put back between its siblings. -/
def Frame.plug (f : Frame) (t : Tree) : Tree :=
  .node f.parent (f.before.reverse ++ t :: f.after)

/-- A tree in its surroundings, the nearest first. -/
structure Location where
  tree : Tree
  above : List Frame := []
  deriving Repr

namespace Location

def info (l : Location) : NodeInfo := l.tree.info

def kind (l : Location) : String := l.tree.kind

def parent? (l : Location) : Option Location :=
  match l.above with
  | [] => none
  | f :: above => some ⟨f.plug l.tree, above⟩

def previousSibling? (l : Location) : Option Location :=
  match l.above with
  | ⟨parent, t :: before, after⟩ :: above => some ⟨t, ⟨parent, before, l.tree :: after⟩ :: above⟩
  | _ => none

def nextSibling? (l : Location) : Option Location :=
  match l.above with
  | ⟨parent, before, t :: after⟩ :: above => some ⟨t, ⟨parent, l.tree :: before, after⟩ :: above⟩
  | _ => none

/-- The locations of trees that have `before` on their left, nearest first. -/
def siblingsFrom (parent : NodeInfo) (above : List Frame) (before : List Tree) :
    List Tree → List Location
  | [] => []
  | t :: after =>
    ⟨t, ⟨parent, before, after⟩ :: above⟩ :: siblingsFrom parent above (t :: before) after

def children (l : Location) : List Location :=
  siblingsFrom l.info l.above [] l.tree.children

def namedChildren (l : Location) : List Location := l.children.filter (·.info.named)

def childInField? (l : Location) (field : String) : Option Location :=
  l.children.find? (·.info.field = some field)

/-- The location reached by taking the child of each number in turn. -/
def descend? (l : Location) : List Nat → Option Location
  | [] => some l
  | n :: path => l.children[n]?.bind (·.descend? path)

end Location

end TruncIdiom.Syntax
