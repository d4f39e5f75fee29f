import TruncIdiom.Script.Function

/-!
Expressions, from literals up to sequences.
-/

namespace TruncIdiom.Script

open Parsing

/-! ## Templates, arrays and objects -/

def templatePart (g : Grammar) : Parsing (List Piece) := do
  if (← peek).kind = .templateText then return [← named "string_fragment"]
  else
    let first ← mark "$\x7b"
    let value ← g.parse (.expression true)
    return [.branch "template_substitution" first [value, ← mark "\x7d"]]

def template (g : Grammar) : Parsing Piece := do
  let first ← mark "`"
  let parts ← untilMark (templatePart g) "`" g.bound
  return .branch "template_string" first (parts ++ [← mark "`"])

def item (g : Grammar) : Parsing Piece := do
  if ← sees "..." then
    let dots ← fixed
    return .branch "spread_element" dots [← g.parse (.assignment true)]
  else g.parse (.assignment true)

def array (g : Grammar) : Parsing Piece := do
  let first ← mark "["
  let items ← untilMark (slot (item g) "]") "]" g.bound
  return .branch "array" first (items ++ [← mark "]"])

/-- A property of an object: a method, a value under a name, or a variable under its own name. -/
def property (g : Grammar) : Parsing Piece := do
  if ← sees "..." then item g
  else
    let signs ← methodSigns
    let t ← peek
    let shorthand := (← rest)[1]?.any fun u => u.isMark "," || u.isMark "\x7d"
    if signs.isEmpty && t.kind = .word && shorthand then
      identifier "shorthand_property_identifier"
    else
      let name ← propertyName g
      if !signs.isEmpty || (← sees "(") then methodFrom g signs name
      else
        let colon ← mark ":"
        let value ← g.parse (.assignment true)
        return .branch "pair" (name.inField "key") [colon, value.inField "value"]

def object (g : Grammar) : Parsing Piece := do
  let first ← mark "\x7b"
  let properties ← commaList (property g) "\x7d" g.bound
  return .branch "object" first (properties ++ [← mark "\x7d"])

def arguments (g : Grammar) : Parsing Piece := do
  let first ← mark "("
  let items ← commaList (item g) ")" g.bound
  return .branch "arguments" first (items ++ [← mark ")"])

def parentheses (g : Grammar) : Parsing Piece := do
  let first ← mark "("
  let inner ← g.parse (.expression true)
  return .branch Syntax.parenthesized first [inner, ← mark ")"]

/-! ## What an expression begins with -/

def unaryOperators : List String := ["!", "~", "-", "+", "typeof", "void", "delete"]

def Token.isUpdate (t : Token) : Bool := t.isMark "++" || t.isMark "--"

def Token.isUnary (t : Token) : Bool :=
  (t.kind = .punctuator || t.kind = .word) && unaryOperators.contains t.text

/-- Whether an expression may begin with a token. -/
def Token.beginsExpression (t : Token) : Bool :=
  match t.kind with
  | .word => !(["in", "instanceof"].contains t.text)
  | .punctuator =>
    ["(", "[", "\x7b", "`"].contains t.text || t.isUpdate || t.isUnary
  | .templateText => false
  | .ending => false
  | _ => true

/-! ## Primary expressions -/

def valueWords : List String := ["this", "super", "null", "true", "false", "undefined"]

def metaProperty (keyword : Piece) (property : String) : Parsing Piece := do
  let point ← mark "."
  return .branch "meta_property" keyword [point, ← word property]

def importKeyword : Parsing Piece := do
  if (← rest)[1]?.any (·.isMark ".") then metaProperty (← fixed) "meta"
  else if (← rest)[1]?.any (·.isMark "(") then named "import"
  else fail

/-- Whether the tokens begin with `yield` and something to yield on the same line. -/
def seesYieldOperand (ts : List Token) : Bool :=
  match ts with
  | t :: u :: _ => t.isWord "yield" && !u.afterNewline && (u.isMark "*" || u.beginsExpression)
  | _ => false

def yieldExpression (g : Grammar) (inAllowed : Bool) : Parsing Piece := do
  let hasOperand := seesYieldOperand (← rest)
  let first ← word "yield"
  if hasOperand then
    let star ← mark? "*"
    return .branch "yield_expression" first (star ++ [← g.parse (.assignment inAllowed)])
  else return .branch "yield_expression" first []

def primaryWord (g : Grammar) (t : Token) : Parsing Piece := do
  if seesFunction (← rest) then function g false
  else if t.text = "class" then classOf g false
  else if t.text = "import" then importKeyword
  else if valueWords.contains t.text then named t.text
  else variableName "identifier"

/-- An expression that is not made of others by operators. -/
def primary (g : Grammar) : Parsing Piece := do
  let t ← peek
  match t.kind with
  | .number => named "number"
  | .string => named "string"
  | .word => primaryWord g t
  | .privateName =>
    if (← rest)[1]?.any (·.isWord "in") then named "private_property_identifier" else fail
  | .punctuator =>
    if t.text = "(" then parentheses g
    else if t.text = "[" then array g
    else if t.text = "\x7b" then object g
    else if t.text = "`" then template g
    else fail
  | _ => fail

/-! ## Members and calls -/

def memberName : Parsing Piece := do
  match (← peek).kind with
  | .word => return (← named "property_identifier").inField "property"
  | .privateName => return (← named "private_property_identifier").inField "property"
  | _ => fail

def indexParts (g : Grammar) : Parsing (List Piece) := do
  let first ← mark "["
  let index ← g.parse (.expression true)
  return [first, index.inField "index", ← mark "]"]

def optionalFrom (g : Grammar) (left : Piece) : Parsing Piece := do
  let sign := (← named "optional_chain").inField "optional_chain"
  if ← sees "[" then
    return .branch "subscript_expression" (left.inField "object") (sign :: (← indexParts g))
  else if ← sees "(" then
    let args := (← arguments g).inField "arguments"
    return .branch "call_expression" (left.inField "function") [sign, args]
  else return .branch "member_expression" (left.inField "object") [sign, ← memberName]

/-- Takes one more member or call, if there is one. -/
def chainStep (g : Grammar) (callsAllowed : Bool) (left : Piece) : Parsing (Option Piece) := do
  if ← sees "." then
    let point ← fixed
    return some (.branch "member_expression" (left.inField "object") [point, ← memberName])
  else if ← sees "[" then
    return some (.branch "subscript_expression" (left.inField "object") (← indexParts g))
  else if ← sees "`" then
    let text := (← template g).inField "arguments"
    return some (.branch "call_expression" (left.inField "function") [text])
  else if callsAllowed && (← sees "?.") then return some (← optionalFrom g left)
  else if callsAllowed && (← sees "(") then
    let args := (← arguments g).inField "arguments"
    return some (.branch "call_expression" (left.inField "function") [args])
  else return none

def chainFrom (g : Grammar) (callsAllowed : Bool) : Nat → Piece → Parsing Piece
  | 0, _ => fail
  | fuel + 1, left => do
    match ← chainStep g callsAllowed left with
    | some longer => chainFrom g callsAllowed fuel longer
    | none => return left

/-- A `new` expression. The first arguments behind it are its own. -/
def newExpression (g : Grammar) : Parsing Piece := do
  let first ← word "new"
  if ← sees "." then metaProperty first "target"
  else
    let made := (← g.parse (.chain false)).inField "constructor"
    let args ← if ← sees "(" then pure [(← arguments g).inField "arguments"] else pure []
    return .branch "new_expression" first (made :: args)

/-- An expression with members and calls behind it. -/
def chain (g : Grammar) (callsAllowed : Bool) : Parsing Piece := do
  let first ←
    if ← seesWord "new" then newExpression g
    else if callsAllowed && (← seesWord "yield") then yieldExpression g true
    else primary g
  chainFrom g callsAllowed g.bound first

/-! ## Operators -/

def Token.beginsCounter (t : Token) : Bool := t.beginsExpression && !t.isUpdate && !t.isUnary

/-- Whether the group in front can only be the arguments of a call: it is empty, spreads a value or
ends with a comma. -/
def seesArguments (ts : List Token) : Bool :=
  let size := ts.length - (afterGroup ts).length
  let inner := (ts.take (size - 1)).drop 1
  inner.isEmpty || inner.head?.any (·.isMark "...") || inner.getLast?.any (·.isMark ",")

/-- Whether the tokens begin with `await` as an operator. The word is a name where no operand
follows. -/
def seesAwait (ts : List Token) : Bool :=
  match ts with
  | t :: u :: others =>
    t.isWord "await" &&
      if u.isUpdate then others.head?.any (·.beginsCounter)
      else if u.isMark "(" then !seesArguments (u :: others)
      else u.beginsExpression
  | _ => false

def postfixed (g : Grammar) : Parsing Piece := do
  let operand ← g.parse (.chain true)
  let t ← peek
  if t.isUpdate && !t.afterNewline then
    checkKind counterKinds operand
    let operator := (← fixed).inField "operator"
    return .branch "update_expression" (operand.inField "argument") [operator]
  else return operand

def unary (g : Grammar) : Parsing Piece := do
  let t ← peek
  if t.isUpdate then
    let operator := (← fixed).inField "operator"
    let operand ← g.parse .unary
    checkKind counterKinds operand
    return .branch "update_expression" operator [operand.inField "argument"]
  else if t.isUnary then
    let operator := (← fixed).inField "operator"
    return .branch "unary_expression" operator [(← g.parse .unary).inField "argument"]
  else if seesAwait (← rest) then
    let first ← fixed
    return .branch "await_expression" first [← g.parse .unary]
  else postfixed g

/-- How tight the next token binds as a binary operator, if it is one here. -/
def nextLevel? (inAllowed : Bool) : Parsing (Option Nat) := do
  let t ← peek
  if !inAllowed && t.isWord "in" then return none else return t.binaryLevel?

/-- Takes operators that bind at least as tight as `level`, and their right operands. Operators
group to the left; only the power operator groups to the right. -/
def operandFrom (g : Grammar) (level : Nat) (inAllowed : Bool) : Nat → Piece → Parsing Piece
  | 0, _ => fail
  | fuel + 1, left => do
    match ← nextLevel? inAllowed with
    | none => return left
    | some found =>
      if found < level then return left
      let power ← sees "**"
      let operator := (← fixed).inField "operator"
      let right ← g.parse (.operand (if power then found else found + 1) inAllowed)
      operandFrom g level inAllowed fuel
        (.branch "binary_expression" (left.inField "left") [operator, right.inField "right"])

def operand (g : Grammar) (level : Nat) (inAllowed : Bool) : Parsing Piece := do
  operandFrom g level inAllowed g.bound (← g.parse .unary)

def conditional (g : Grammar) (inAllowed : Bool) : Parsing Piece := do
  let condition ← g.parse (.operand 1 inAllowed)
  if ← sees "?" then
    let question ← fixed
    let yes ← g.parse (.assignment true)
    let colon ← mark ":"
    let no ← g.parse (.assignment inAllowed)
    return .branch "ternary_expression" (condition.inField "condition")
      [question, yes.inField "consequence", colon, no.inField "alternative"]
  else return condition

/-! ## Functions by arrow -/

def seesArrow (ts : List Token) : Bool := ts.head?.any (·.isMark "=>")

/-- Whether the tokens begin with the parameters of an arrow and the arrow. -/
def seesArrowHead (ts : List Token) : Bool :=
  match ts with
  | t :: others =>
    (t.isVariable && seesArrow others) || (t.isMark "(" && seesArrow (afterGroup ts))
  | [] => false

def seesArrowFunction (ts : List Token) : Bool :=
  seesArrowHead ts || (seesAsync ts && seesArrowHead (ts.drop 1))

def arrowFunction (g : Grammar) (inAllowed : Bool) : Parsing Piece := do
  let async ← if seesArrowHead (← rest) then pure [] else word? "async"
  let head ←
    if ← sees "(" then pure ((← parameters g).inField "parameters")
    else pure ((← variableName "identifier").inField "parameter")
  let arrow ← mark "=>"
  let body ← if ← sees "\x7b" then block g else g.parse (.assignment inAllowed)
  return modified "arrow_function" async head [arrow, body.inField "body"]

/-! ## Assignments and sequences -/

/-- An assignment to something that has been read. -/
def assignmentFrom (g : Grammar) (kind : String) (target : Piece) (inAllowed : Bool) :
    Parsing Piece := do
  let operator ← fixed
  let value ← g.parse (.assignment inAllowed)
  let sign := if kind = "assignment_expression" then operator else operator.inField "operator"
  return .branch kind (target.inField "left") [sign, value.inField "right"]

def seesPatternAssignment (ts : List Token) : Bool :=
  seesGroup ts && (afterGroup ts).head?.any (·.isMark "=")

def Token.assignmentKind? (t : Token) : Option String :=
  if t.isMark "=" then some "assignment_expression"
  else if compoundOperators.any t.isMark then some "augmented_assignment_expression"
  else none

/-- Takes the expression in front once more, with its first word as a name. -/
def asName (g : Grammar) (ts : List Token) : Parsing Piece := do
  set ts
  g.parse (.chain true)

/-- An assignment, or an expression that is none. What is assigned to awaits nothing, so there
`await` is a name. -/
def assignment (g : Grammar) (inAllowed : Bool) : Parsing Piece := do
  let ts ← rest
  if seesYieldOperand ts then yieldExpression g inAllowed
  else if seesArrowFunction ts then arrowFunction g inAllowed
  else if seesPatternAssignment ts then
    assignmentFrom g "assignment_expression" (← g.parse (.pattern false)) inAllowed
  else
    let left ← conditional g inAllowed
    if (← peek).assignmentKind?.isNone then return left
    let target ← if left.kind = "await_expression" then asName g ts else pure left
    checkKind targetKinds target
    match (← peek).assignmentKind? with
    | some kind => assignmentFrom g kind target inAllowed
    | none => fail

/-- Assignments with commas between them, or one alone. -/
def expression (g : Grammar) (inAllowed : Bool) : Parsing Piece := do
  match ← commaRow (g.parse (.assignment inAllowed)) g.bound with
  | [] => fail
  | [only] => return only
  | first :: others => return .branch "sequence_expression" first others

end TruncIdiom.Script
