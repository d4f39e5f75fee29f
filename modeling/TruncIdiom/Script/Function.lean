import TruncIdiom.Script.Pattern

/-!
Functions, methods and classes.
-/

namespace TruncIdiom.Script

open Parsing

/-! ## Functions -/

def block (g : Grammar) : Parsing Piece := do
  let first ← mark "\x7b"
  let statements ← untilMark (return [← g.parse .statement]) "\x7d" g.bound
  return .branch "statement_block" first (statements ++ [← mark "\x7d"])

def parameters (g : Grammar) : Parsing Piece := do
  let first ← mark "("
  let items ← commaList (patternItem g true) ")" g.bound
  return .branch "formal_parameters" first (items ++ [← mark ")"])

def signature (g : Grammar) : Parsing (List Piece) := do
  let ps ← parameters g
  let body ← block g
  return [ps.inField "parameters", body.inField "body"]

/-- Whether the tokens begin with `async` and, on the same line, another token. -/
def seesAsync (ts : List Token) : Bool :=
  match ts with
  | t :: u :: _ => t.isWord "async" && !u.afterNewline
  | _ => false

def seesFunction (ts : List Token) : Bool :=
  ts.head?.any (·.isWord "function") || (seesAsync ts && ts[1]?.any (·.isWord "function"))

def functionKind (declared generator : Bool) : String :=
  match declared, generator with
  | true, true => "generator_function_declaration"
  | true, false => "function_declaration"
  | false, true => "generator_function"
  | false, false => "function_expression"

/-- A function that is written with the keyword. Only an expression may lack a name. -/
def function (g : Grammar) (declared : Bool) : Parsing Piece := do
  let async ← word? "async"
  let keyword ← word "function"
  let star ← mark? "*"
  let name ←
    if declared || !(← sees "(") then pure [(← identifier "identifier").inField "name"]
    else pure []
  let parts := async ++ keyword :: star ++ name ++ (← signature g)
  match parts with
  | first :: others => return .branch (functionKind declared !star.isEmpty) first others
  | [] => fail

/-! ## Methods -/

/-- Whether the tokens begin with a word that says more about a method, and is not its name. -/
def seesModifier (word : String) (ts : List Token) : Bool :=
  match ts with
  | t :: u :: _ => t.isWord word && !(["(", "=", ";", ",", ":", "\x7d"].any u.isMark)
  | _ => false

def modifiers (words : List String) : Parsing (List Piece) := do
  let ts ← rest
  if words.any (seesModifier · ts) then return [← fixed] else return []

/-- Takes what makes a method special: `async` and a star, or one of `get`, `set` and a star. -/
def methodSigns : Parsing (List Piece) := do
  match ← modifiers ["async"] with
  | [] =>
    match ← modifiers ["get", "set"] with
    | [] => mark? "*"
    | accessor => return accessor
  | async => return async ++ (← mark? "*")

/-- A node whose first part may be one of some modifiers. -/
def modified (kind : String) (before : List Piece) (first : Piece) (others : List Piece) : Piece :=
  match before with
  | [] => .branch kind first others
  | m :: ms => .branch kind m (ms ++ first :: others)

def methodFrom (g : Grammar) (before : List Piece) (name : Piece) : Parsing Piece := do
  return modified "method_definition" before (name.inField "name") (← signature g)

/-! ## Classes -/

def staticBlock (g : Grammar) : Parsing Piece := do
  let first ← word "static"
  let body ← block g
  return .branch "class_static_block" first [body.inField "body"]

def fieldFrom (g : Grammar) (before : List Piece) (name : Piece) : Parsing (List Piece) := do
  let field := modified "field_definition" before (name.inField "property") (← initializer g true)
  return field :: (← semicolon)

def seesStaticBlock (ts : List Token) : Bool :=
  ts.head?.any (·.isWord "static") && ts[1]?.any (·.isMark "\x7b")

/-- A member of a class, or a semicolon between two. -/
def classMember (g : Grammar) : Parsing (List Piece) := do
  if ← sees ";" then return [← fixed]
  else if seesStaticBlock (← rest) then return [(← staticBlock g).inField "member"]
  else
    let static ← modifiers ["static"]
    let signs ← methodSigns
    let name ← propertyName g
    if !signs.isEmpty || (← sees "(") then
      return [(← methodFrom g (static ++ signs) name).inField "member"]
    else
      match ← fieldFrom g static name with
      | field :: others => return field.inField "member" :: others
      | [] => fail

def classBody (g : Grammar) : Parsing Piece := do
  let first ← mark "\x7b"
  let members ← untilMark (classMember g) "\x7d" g.bound
  return .branch "class_body" first (members ++ [← mark "\x7d"])

/-- What a class extends. -/
def heritage (g : Grammar) : Parsing (List Piece) := do
  if ← seesWord "extends" then
    let first ← fixed
    return [.branch "class_heritage" first [← g.parse (.chain true)]]
  else return []

/-- A class. Only an expression may lack a name. -/
def classOf (g : Grammar) (declared : Bool) : Parsing Piece := do
  let first ← word "class"
  let name ←
    if declared || (← peek).isIdentifier then
      pure [(← identifier "identifier").inField "name"]
    else pure []
  let parts := name ++ (← heritage g) ++ [(← classBody g).inField "body"]
  return .branch (if declared then "class_declaration" else "class") first parts

end TruncIdiom.Script
