import TruncIdiom.Syntax.Location

/-!
Finding a node by its span.

`Location.narrowed` goes down to the node that covers a span most closely, and
`Location.enclosing?` goes up from a node until one has a property.
-/

namespace TruncIdiom.Syntax

/-- Whether a node covers all bytes from one offset up to another. -/
def NodeInfo.covers (info : NodeInfo) (start stop : Nat) : Bool :=
  info.start ≤ start && stop ≤ info.stop

namespace Location

/-- Goes down at most `fuel` levels, to the first child that covers a span each time. -/
def narrowedFrom (start stop : Nat) : Nat → Location → Location
  | 0, l => l
  | fuel + 1, l =>
    match l.children.find? (·.info.covers start stop) with
    | some child => narrowedFrom start stop fuel child
    | none => l

/-- The place below a location that is reached by children that cover a span. A tree has no more
levels than nodes. -/
def narrowed (l : Location) (start stop : Nat) : Location :=
  narrowedFrom start stop l.tree.size l

/-- A tree in its surroundings, or the nearest tree around it whose node has a property. -/
def enclosingIn (p : NodeInfo → Bool) (t : Tree) : List Frame → Option Location
  | [] => if p t.info then some ⟨t, []⟩ else none
  | f :: above =>
    if p t.info then some ⟨t, f :: above⟩ else enclosingIn p (f.plug t) above

/-- The location itself, or its nearest ancestor, whose node has a property. -/
def enclosing? (l : Location) (p : NodeInfo → Bool) : Option Location :=
  enclosingIn p l.tree l.above

end Location

end TruncIdiom.Syntax
