import TruncIdiom.Text.Slice
import TruncIdiom.Text.Utf8

/-!
Concrete syntax trees.

A node has a kind, the span of source bytes it covers, and its children in order, tokens and
comments among them. Named nodes are parts of the grammar, anonymous ones are its fixed tokens. A
missing node is a token that a parser put in to go on; a flagged one is known to hold an error. A
child that plays a part in its parent carries the field it fills there.
-/

namespace TruncIdiom.Syntax

open Text

/-- A node apart from its children. -/
structure NodeInfo where
  kind : String
  start : Nat
  stop : Nat
  named : Bool := true
  missing : Bool := false
  field : Option String := none
  flagged : Bool := false
  deriving DecidableEq, Repr, Inhabited

def NodeInfo.hasWidth (info : NodeInfo) : Bool := info.start < info.stop

def NodeInfo.text (info : NodeInfo) (source : Bytes) : String :=
  decode (between source info.start info.stop)

inductive Tree where
  | node (info : NodeInfo) (children : List Tree)
  deriving Repr, Inhabited

abbrev Parser := Bytes → Tree

namespace Tree

def info : Tree → NodeInfo
  | .node info _ => info

def children : Tree → List Tree
  | .node _ children => children

def kind (t : Tree) : String := t.info.kind

def namedChildren (t : Tree) : List Tree := t.children.filter (·.info.named)

def childInField? (t : Tree) (field : String) : Option Tree :=
  t.children.find? (·.info.field = some field)

/-- The text of the child that is the operator, or nothing. -/
def operatorText (t : Tree) (source : Bytes) : String :=
  match t.childInField? "operator" with
  | some operator => operator.info.text source
  | none => ""

mutual

def size : Tree → Nat
  | .node _ children => sizeAll children + 1

def sizeAll : List Tree → Nat
  | [] => 0
  | t :: ts => t.size + sizeAll ts

end

mutual

/-- The tree and every tree below it, parents first and children in order. -/
def preorder : Tree → List Tree
  | .node info children => .node info children :: preorderAll children

def preorderAll : List Tree → List Tree
  | [] => []
  | t :: ts => t.preorder ++ preorderAll ts

end

/-! ## Errors in a tree -/

/-- Whether the top node stands for source that is not well formed. -/
def isFault (t : Tree) : Bool := t.kind = "ERROR" || t.info.missing

mutual

def hasError : Tree → Bool
  | .node info children =>
    info.flagged || info.kind = "ERROR" || info.missing || anyError children

def anyError : List Tree → Bool
  | [] => false
  | t :: ts => t.hasError || anyError ts

end

end Tree

end TruncIdiom.Syntax
