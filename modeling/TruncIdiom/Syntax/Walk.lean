import TruncIdiom.Syntax.Location

/-!
Walking through a tree.

A cursor stands somewhere below the place it started from and never leaves what lies there: it
counts how far down it is. `Location.walk` runs it through every node: down to the first child where
there is one, else on to the next sibling, else up until there is a next sibling to go on to.
`Location.preorder` says the same by recursion: a node, then each child's list in order.
-/

namespace TruncIdiom.Syntax

/-! ## The cursor -/

/-- A place and how many levels it lies below the start. -/
structure Cursor where
  here : Location
  depth : Nat := 0
  deriving Repr

def Cursor.firstChild? (c : Cursor) : Option Cursor :=
  match c.here.children with
  | [] => none
  | child :: _ => some ⟨child, c.depth + 1⟩

/-- On to the next sibling, unless the cursor is where it started. -/
def Cursor.nextSibling? (c : Cursor) : Option Cursor :=
  match c.depth with
  | 0 => none
  | _ + 1 => c.here.nextSibling?.map fun sibling => ⟨sibling, c.depth⟩

def Cursor.parent? (c : Cursor) : Option Cursor :=
  match c.depth with
  | 0 => none
  | depth + 1 => c.here.parent?.map fun parent => ⟨parent, depth⟩

/-- The places still to come. A place that the cursor came up to has been `seen` with all below
it. Each node is come to once from above and at most once from below. -/
def Cursor.walk : Nat → Cursor → Bool → List Location
  | 0, _, _ => []
  | fuel + 1, c, seen =>
    let down := if seen then none else c.firstChild?
    let more :=
      match down with
      | some child => child.walk fuel false
      | none =>
        match c.nextSibling? with
        | some sibling => sibling.walk fuel false
        | none =>
          match c.parent? with
          | some parent => parent.walk fuel true
          | none => []
    if seen then more else c.here :: more

/-- Every place from a location down, in the order a cursor comes to them. -/
def Location.walk (l : Location) : List Location :=
  Cursor.walk (2 * l.tree.size) ⟨l, 0⟩ false

/-! ## The recursion -/

mutual

/-- A tree and all below it in preorder, with their surroundings. -/
def Tree.places (above : List Frame) : Tree → List Location
  | .node info children =>
    ⟨.node info children, above⟩ :: Tree.placesFrom info above [] children

/-- Trees in preorder that have `before` on their left, nearest first. -/
def Tree.placesFrom (parent : NodeInfo) (above : List Frame) (before : List Tree) :
    List Tree → List Location
  | [] => []
  | t :: after =>
    t.places (⟨parent, before, after⟩ :: above) ++
      Tree.placesFrom parent above (t :: before) after

end

def Location.preorder (l : Location) : List Location := l.tree.places l.above

end TruncIdiom.Syntax
