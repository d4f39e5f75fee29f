import TruncIdiom.Syntax.Tree

/-!
Whether evaluating an expression may do more than give a value.

Calls, assignments and their kin always may. Reading a property may when getters are to count.
Making a function runs none of its body, and of a method only a computed key is evaluated. Implicit
conversions are not looked at. `firstEffect?` searches level by level, so it finds an effect that
lies least deep, and of those the leftmost; `mayHaveEffect` is the same question by recursion.
-/

namespace TruncIdiom.Rule

open Text Syntax

/-- The kinds of node that always have an effect. Tagged templates and imports are calls. -/
def effectKinds : List String := [
  "assignment_expression", "augmented_assignment_expression", "await_expression",
  "call_expression", "new_expression", "update_expression", "yield_expression"]

def propertyKinds : List String := ["member_expression", "subscript_expression"]

def functionKinds : List String := [
  "arrow_function", "function", "function_expression", "function_declaration",
  "generator_function", "generator_function_declaration"]

def methodKind : String := "method_definition"

/-- Whether a node is an effect, whatever lies below it. -/
def isEffect (source : Bytes) (getters : Bool) (t : Tree) : Bool :=
  effectKinds.contains t.kind ||
    (t.kind = "unary_expression" && t.operatorText source = "delete") ||
    (getters && propertyKinds.contains t.kind)

/-- The parts of a node that are evaluated together with it. -/
def evaluatedParts (t : Tree) : List Tree :=
  if functionKinds.contains t.kind then []
  else if t.kind = methodKind then (t.childInField? "name").toList
  else t.namedChildren

/-- The first effect among a queue of trees and, behind them, what is evaluated with them. -/
def firstEffectFrom (source : Bytes) (getters : Bool) : Nat → List Tree → Option Tree
  | 0, _ => none
  | _ + 1, [] => none
  | fuel + 1, t :: queue =>
    if isEffect source getters t then some t
    else firstEffectFrom source getters fuel (queue ++ evaluatedParts t)

/-- The first effect of a tree, level by level. The queue takes up each node once. -/
def firstEffect? (source : Bytes) (getters : Bool) (t : Tree) : Option Tree :=
  firstEffectFrom source getters t.size [t]

def hasSideEffect (source : Bytes) (getters : Bool) (t : Tree) : Bool :=
  (firstEffect? source getters t).isSome

/-- The text of the first effect of an expression, or nothing. -/
def describeSideEffect (source : Bytes) (getters : Bool) (t : Tree) : String :=
  match firstEffect? source getters t with
  | some effect => effect.info.text source
  | none => ""

/-! ## By recursion -/

mutual

/-- Whether a tree is an effect or evaluates one. -/
def mayHaveEffect (source : Bytes) (getters : Bool) : Tree → Bool
  | .node info children =>
    isEffect source getters (.node info children) ||
      (!functionKinds.contains info.kind &&
        (if info.kind = methodKind then nameHasEffect source getters children
          else partHasEffect source getters children))

/-- Whether the first child that is a name has an effect. -/
def nameHasEffect (source : Bytes) (getters : Bool) : List Tree → Bool
  | [] => false
  | t :: ts =>
    if t.info.field = some "name" then mayHaveEffect source getters t
    else nameHasEffect source getters ts

def partHasEffect (source : Bytes) (getters : Bool) : List Tree → Bool
  | [] => false
  | t :: ts =>
    (t.info.named && mayHaveEffect source getters t) || partHasEffect source getters ts

end

end TruncIdiom.Rule
