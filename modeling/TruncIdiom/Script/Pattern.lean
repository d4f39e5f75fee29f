import TruncIdiom.Script.Parsing

/-!
Patterns: what a declaration, a parameter or an assignment takes apart.

In a declaration the leaves of a pattern are names. In an assignment they may be anything that can
be assigned to. A name of a property stands here too, for patterns and objects share it.
-/

namespace TruncIdiom.Script

open Parsing

/-! ## Names of properties -/

def computedName (g : Grammar) : Parsing Piece := do
  let first ← mark "["
  let name ← g.parse (.assignment true)
  return .branch "computed_property_name" first [name, ← mark "]"]

/-- The name of a property. Every word is one. -/
def propertyName (g : Grammar) : Parsing Piece := do
  let t ← peek
  match t.kind with
  | .word => named "property_identifier"
  | .privateName => named "private_property_identifier"
  | .number => named "number"
  | .string => named "string"
  | _ => computedName g

/-! ## Values and targets -/

def initializer (g : Grammar) (inAllowed : Bool) : Parsing (List Piece) := do
  if ← sees "=" then
    let equals ← fixed
    return [equals, (← g.parse (.assignment inAllowed)).inField "value"]
  else return []

def placeKinds : List String :=
  ["identifier", "undefined", "member_expression", "subscript_expression"]

/-- The kinds of expression that can be assigned to. -/
def targetKinds : List String := Syntax.parenthesized :: placeKinds

/-- The kinds of expression that can be counted up and down. -/
def counterKinds : List String := "yield_expression" :: targetKinds

def checkKind (kinds : List String) (p : Piece) : Parsing Unit := do
  if kinds.contains p.kind then return () else fail

def seesGroup (ts : List Token) : Bool :=
  ts.head?.any fun t => t.isMark "[" || t.isMark "\x7b"

/-- Whether the tokens begin with a group that is not the object of a longer expression. -/
def seesWholeGroup (ts : List Token) : Bool :=
  seesGroup ts &&
    !(afterGroup ts).head?.any fun t => [".", "?.", "[", "(", "`"].any t.isMark

/-! ## Patterns -/

/-- An item of a list that may be left out, with the comma after it unless `stop` is next. -/
def slot (item : Parsing Piece) (stop : String) : Parsing (List Piece) := do
  if ← sees "," then return [← fixed]
  let p ← item
  if ← sees stop then return [p]
  return [p, ← mark ","]

/-- A pattern and, after an equals sign, the value that stands in for a missing one. -/
def patternWithDefault (g : Grammar) (binding : Bool) : Parsing Piece := do
  let p ← g.parse (.pattern binding)
  if ← sees "=" then
    let equals ← fixed
    let value ← g.parse (.assignment true)
    return .branch "assignment_pattern" (p.inField "left") [equals, value.inField "right"]
  else return p

def restPattern (g : Grammar) (binding : Bool) : Parsing Piece := do
  let dots ← mark "..."
  return .branch "rest_pattern" dots [← g.parse (.pattern binding)]

/-- An item of a pattern in brackets or of a list of parameters. -/
def patternItem (g : Grammar) (binding : Bool) : Parsing Piece := do
  if ← sees "..." then restPattern g binding else patternWithDefault g binding

def arrayPattern (g : Grammar) (binding : Bool) : Parsing Piece := do
  let first ← mark "["
  let items ← untilMark (slot (patternItem g binding) "]") "]" g.bound
  return .branch "array_pattern" first (items ++ [← mark "]"])

/-- A property in a pattern whose name is also the variable. -/
def shorthandPattern (g : Grammar) : Parsing Piece := do
  let name ← identifier "shorthand_property_identifier_pattern"
  if ← sees "=" then
    let equals ← fixed
    let value ← g.parse (.assignment true)
    return .branch "object_assignment_pattern" (name.inField "left")
      [equals, value.inField "right"]
  else return name

def patternProperty (g : Grammar) (binding : Bool) : Parsing Piece := do
  if ← sees "..." then restPattern g binding
  else if (← rest)[1]?.any fun t => [",", "=", "\x7d"].any t.isMark then shorthandPattern g
  else
    let key ← propertyName g
    let colon ← mark ":"
    let value ← patternWithDefault g binding
    return .branch "pair_pattern" (key.inField "key") [colon, value.inField "value"]

def objectPattern (g : Grammar) (binding : Bool) : Parsing Piece := do
  let first ← mark "\x7b"
  let items ← commaList (patternProperty g binding) "\x7d" g.bound
  return .branch "object_pattern" first (items ++ [← mark "\x7d"])

def pattern (g : Grammar) (binding : Bool) : Parsing Piece := do
  if seesWholeGroup (← rest) then
    if ← sees "[" then arrayPattern g binding else objectPattern g binding
  else if binding then variableName "identifier"
  else
    let target ← g.parse (.chain true)
    checkKind placeKinds target
    return target

def declaredTarget (g : Grammar) : Parsing Piece := do
  if seesGroup (← rest) then g.parse (.pattern true) else identifier "identifier"

end TruncIdiom.Script
