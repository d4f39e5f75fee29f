import TruncIdiom.Script.Expression

/-!
Statements.
-/

namespace TruncIdiom.Script

open Parsing

/-! ## Declarations -/

/-- Whether the tokens begin a declaration of variables. The word `let` may be a name. -/
def seesDeclaration (ts : List Token) : Bool :=
  match ts with
  | t :: others =>
    t.isWord "var" || t.isWord "const" ||
      (t.isWord "let" && (seesGroup others || others.head?.any (·.isIdentifier)))
  | [] => false

def declaratorOf (target : Piece) (value : List Piece) : Piece :=
  .branch "variable_declarator" (target.inField "name") value

def declarator (g : Grammar) (inAllowed : Bool) : Parsing Piece := do
  let target ← declaredTarget g
  return declaratorOf target (← initializer g inAllowed)

def declarationOf (keyword : Piece) (others : List Piece) : Piece :=
  if keyword.kind = "var" then .branch "variable_declaration" keyword others
  else .branch "lexical_declaration" (keyword.inField "kind") others

def declaration (g : Grammar) : Parsing Piece := do
  let keyword ← fixed
  let declared ← commaRow (declarator g true) g.bound
  return declarationOf keyword (declared ++ (← semicolon))

/-! ## Conditions and loops -/

def ifStatement (g : Grammar) : Parsing Piece := do
  let first ← word "if"
  let condition ← parentheses g
  let yes ← g.parse .statement
  let no ←
    if ← seesWord "else" then
      let keyword ← fixed
      pure [(Piece.branch "else_clause" keyword [← g.parse .statement]).inField "alternative"]
    else pure []
  return .branch "if_statement" first
    (condition.inField "condition" :: yes.inField "consequence" :: no)

def whileStatement (g : Grammar) : Parsing Piece := do
  let first ← word "while"
  let condition ← parentheses g
  let body ← g.parse .statement
  return .branch "while_statement" first [condition.inField "condition", body.inField "body"]

/-- A `do` statement. No semicolon is needed behind its condition. -/
def doStatement (g : Grammar) : Parsing Piece := do
  let first ← word "do"
  let body ← g.parse .statement
  let keyword ← word "while"
  let condition ← parentheses g
  return .branch "do_statement" first
    (body.inField "body" :: keyword :: condition.inField "condition" :: (← mark? ";"))

/-- The kind of a loop and what stands in its head. -/
abbrev LoopHead := String × List Piece

def seesLoopWord : Parsing Bool := return (← seesWord "in") || (← seesWord "of")

/-- The rest of the head of a loop over members or values. -/
def eachFrom (g : Grammar) (before : List Piece) : Parsing LoopHead := do
  let operator := (← fixed).inField "operator"
  let right := (← g.parse (.expression true)).inField "right"
  return ("for_in_statement", before ++ [operator, right])

/-- The rest of the head of a loop with a condition. -/
def stepsFrom (g : Grammar) (before : List Piece) : Parsing LoopHead := do
  let first ← mark ";"
  let condition ←
    if ← sees ";" then pure []
    else pure [(← g.parse (.expression true)).inField "condition"]
  let second ← mark ";"
  let increment ←
    if ← sees ")" then pure []
    else pure [(← g.parse (.expression true)).inField "increment"]
  return ("for_statement", before ++ first :: condition ++ second :: increment)

/-- The head of a loop that declares a variable. One that is declared by `var` may have a value in
front of `in`. -/
def declaringHead (g : Grammar) : Parsing LoopHead := do
  let keyword ← fixed
  let target ← declaredTarget g
  let eachParts := [keyword.inField "kind", target.inField "left"]
  if ← seesLoopWord then eachFrom g eachParts
  else
    let value ← initializer g false
    if keyword.kind = "var" && (← seesWord "in") then eachFrom g (eachParts ++ value)
    else
      let others ←
        if ← sees "," then
          let comma ← fixed
          pure (comma :: (← commaRow (declarator g false) g.bound))
        else pure []
      let declared := declarationOf keyword (declaratorOf target value :: others)
      stepsFrom g [declared.inField "initializer"]

def seesLoopPattern (ts : List Token) : Bool :=
  seesGroup ts && (afterGroup ts).head?.any fun t => t.isWord "in" || t.isWord "of"

/-- Whether the tokens begin with `await` and `of`, where the first is a name. -/
def seesAwaitOf (ts : List Token) : Bool :=
  ts.head?.any (·.isWord "await") && ts[1]?.any (·.isWord "of")

def loopHead (g : Grammar) : Parsing LoopHead := do
  let ts ← rest
  if ← sees ";" then stepsFrom g []
  else if seesDeclaration ts then declaringHead g
  else if seesLoopPattern ts then
    eachFrom g [(← g.parse (.pattern false)).inField "left"]
  else
    let first ← if seesAwaitOf ts then asName g ts else g.parse (.expression false)
    if ← seesLoopWord then
      checkKind targetKinds first
      eachFrom g [first.inField "left"]
    else stepsFrom g [first.inField "initializer"]

def forStatement (g : Grammar) : Parsing Piece := do
  let first ← word "for"
  let await ← word? "await"
  let left ← mark "("
  let (kind, parts) ← loopHead g
  let right ← mark ")"
  let body ← g.parse .statement
  if !await.isEmpty && kind ≠ "for_in_statement" then fail
  return .branch kind first (await ++ left :: parts ++ [right, body.inField "body"])

/-! ## Choices and exceptions -/

def caseBody (g : Grammar) : Nat → Parsing (List Piece)
  | 0 => fail
  | fuel + 1 => do
    if (← sees "\x7d") || (← seesWord "case") || (← seesWord "default") then return []
    let p ← g.parse .statement
    return p.inField "body" :: (← caseBody g fuel)

def switchCase (g : Grammar) : Parsing (List Piece) := do
  if ← seesWord "default" then
    let first ← fixed
    let colon ← mark ":"
    return [.branch "switch_default" first (colon :: (← caseBody g g.bound))]
  else
    let first ← word "case"
    let value := (← g.parse (.expression true)).inField "value"
    let colon ← mark ":"
    return [.branch "switch_case" first (value :: colon :: (← caseBody g g.bound))]

def switchStatement (g : Grammar) : Parsing Piece := do
  let first ← word "switch"
  let value := (← parentheses g).inField "value"
  let left ← mark "\x7b"
  let cases ← untilMark (switchCase g) "\x7d" g.bound
  let body := Piece.branch "switch_body" left (cases ++ [← mark "\x7d"])
  return .branch "switch_statement" first [value, body.inField "body"]

def catchClause (g : Grammar) : Parsing (List Piece) := do
  if ← seesWord "catch" then
    let first ← fixed
    let parameter ←
      if ← sees "(" then
        let left ← fixed
        let name := (← declaredTarget g).inField "parameter"
        pure [left, name, ← mark ")"]
      else pure []
    let body := (← block g).inField "body"
    return [(Piece.branch "catch_clause" first (parameter ++ [body])).inField "handler"]
  else return []

def finallyClause (g : Grammar) : Parsing (List Piece) := do
  if ← seesWord "finally" then
    let first ← fixed
    let body := (← block g).inField "body"
    return [(Piece.branch "finally_clause" first [body]).inField "finalizer"]
  else return []

def tryStatement (g : Grammar) : Parsing Piece := do
  let first ← word "try"
  let body := (← block g).inField "body"
  return .branch "try_statement" first (body :: (← catchClause g) ++ (← finallyClause g))

/-! ## Jumps -/

def Token.endsStatement (t : Token) : Bool :=
  t.kind = .ending || t.afterNewline || t.isMark ";" || t.isMark "\x7d"

/-- A statement of a keyword and, on the same line, what it is about. -/
def jump (kind : String) (about : Parsing Piece) : Parsing Piece := do
  let first ← fixed
  let parts ← if (← peek).endsStatement then pure [] else pure [← about]
  return .branch kind first (parts ++ (← semicolon))

def throwStatement (g : Grammar) : Parsing Piece := do
  let first ← word "throw"
  if (← peek).afterNewline then fail
  let value ← g.parse (.expression true)
  return .branch "throw_statement" first (value :: (← semicolon))

def labelName : Parsing Piece := return (← identifier "statement_identifier").inField "label"

def labeledStatement (g : Grammar) : Parsing Piece := do
  let name ← labelName
  let colon ← mark ":"
  let body ← g.parse .statement
  return .branch "labeled_statement" name [colon, body.inField "body"]

/-! ## Statements -/

/-- A declaration of a variable, a function or a class, if the tokens begin one. -/
def declaration? (g : Grammar) : Parsing (Option Piece) := do
  let ts ← rest
  if seesDeclaration ts then return some (← declaration g)
  else if seesFunction ts then return some (← function g true)
  else if ← seesWord "class" then return some (← classOf g true)
  else return none

def exportedDefault (g : Grammar) : Parsing (List Piece) := do
  let keyword ← word "default"
  if seesFunction (← rest) then return [keyword, (← function g false).inField "value"]
  else if ← seesWord "class" then return [keyword, (← classOf g false).inField "value"]
  else
    let value := (← g.parse (.assignment true)).inField "value"
    return keyword :: value :: (← semicolon)

def exportStatement (g : Grammar) : Parsing Piece := do
  let first ← word "export"
  if ← seesWord "default" then return .branch "export_statement" first (← exportedDefault g)
  else
    match ← declaration? g with
    | some declared =>
      return .branch "export_statement" first [declared.inField "declaration"]
    | none => fail

def expressionStatement (g : Grammar) : Parsing Piece := do
  let value ← g.parse (.expression true)
  return .branch "expression_statement" value (← semicolon)

/-- A statement that begins with a word, unless it is a declaration. -/
def wordStatement (g : Grammar) (t : Token) : Parsing Piece := do
  match t.text with
  | "if" => ifStatement g
  | "while" => whileStatement g
  | "do" => doStatement g
  | "for" => forStatement g
  | "switch" => switchStatement g
  | "try" => tryStatement g
  | "return" => jump "return_statement" (g.parse (.expression true))
  | "break" => jump "break_statement" labelName
  | "continue" => jump "continue_statement" labelName
  | "throw" => throwStatement g
  | "debugger" => jump "debugger_statement" fail
  | "export" => exportStatement g
  | _ =>
    if t.isVariable && (← rest)[1]?.any (·.isMark ":") then labeledStatement g
    else expressionStatement g

def statement (g : Grammar) : Parsing Piece := do
  let t ← peek
  if t.isMark "\x7b" then block g
  else if t.isMark ";" then return .branch "empty_statement" (← fixed) []
  else
    match ← declaration? g with
    | some declared => return declared
    | none => if t.kind = .word then wordStatement g t else expressionStatement g

/-! ## Whole sources -/

def statements (g : Grammar) : Nat → Parsing (List Piece)
  | 0 => fail
  | fuel + 1 => do
    if (← peek).kind = .ending then return []
    let p ← g.parse .statement
    return p :: (← statements g fuel)

end TruncIdiom.Script
