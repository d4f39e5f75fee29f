import TruncIdiom.Syntax.Location

/-!
Parentheses are nodes of the tree but no part of the meaning.

`Location.unwrapped` goes down through parentheses to the expression in them, whatever comments
stand beside it; `Location.outermost` goes up to the last pair that holds nothing else.
-/

namespace TruncIdiom.Syntax

def parenthesized : String := "parenthesized_expression"

def comment : String := "comment"

namespace Location

/-- The named children that are no comments. -/
def content (l : Location) : List Location := l.namedChildren.filter (·.kind ≠ comment)

/-- Goes down through at most `fuel` pairs of parentheses. A pair that holds nothing, or more than
one expression, is not gone into. -/
def unwrapFrom : Nat → Location → Location
  | 0, l => l
  | fuel + 1, l =>
    if l.kind = parenthesized then
      match l.content with
      | [inner] => unwrapFrom fuel inner
      | _ => l
    else l

/-- The expression in any number of parentheses. A tree has no more of them than nodes. -/
def unwrapped (l : Location) : Location := unwrapFrom l.tree.size l

def operand? (l : Location) (field : String) : Option Location :=
  (l.childInField? field).map unwrapped

def outermostIn (t : Tree) : List Frame → Location
  | [] => ⟨t, []⟩
  | f :: above =>
    if f.parent.kind = parenthesized then outermostIn (f.plug t) above else ⟨t, f :: above⟩

/-- The location itself, or the outermost parentheses directly around it. -/
def outermost (l : Location) : Location := outermostIn l.tree l.above

end Location

end TruncIdiom.Syntax
