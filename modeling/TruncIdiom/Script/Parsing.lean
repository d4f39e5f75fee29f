import TruncIdiom.Script.Piece

/-!
Reading a grammar from a list of tokens.

A parser takes tokens from the front of the list, or stops with the offset of one it has no use
for. The nonterminals of the grammar are named by `Goal`. Each is defined on its own over a
`Grammar`, which says how to parse every goal; the grammar of a source is tied together at the end.
-/

namespace TruncIdiom.Script

/-- A parser, which fails with an offset. -/
abbrev Parsing := StateT (List Token) (Except Nat)

/-! ## The nonterminals -/

/-- What can be asked of a grammar. Where `inAllowed` is false, `in` is not an operator. -/
inductive Goal where
  | expression (inAllowed : Bool)
  | assignment (inAllowed : Bool)
  | operand (level : Nat) (inAllowed : Bool)
  | unary
  | chain (callsAllowed : Bool)
  | pattern (binding : Bool)
  | statement
  deriving DecidableEq, Repr

/-- How goals are parsed, and a bound on the length of any list in the source. -/
structure Grammar where
  parse : Goal → Parsing Piece
  bound : Nat

/-! ## Single tokens -/

namespace Parsing

def rest : Parsing (List Token) := get

/-- The token that stands for the end when there is no other. -/
def noToken : Token := { kind := .ending, text := "", start := 0, stop := 0 }

def peek : Parsing Token := return (← rest).head?.getD noToken

/-- Stops at the next token. -/
def fail {α : Type} : Parsing α := do throw (← peek).start

def next : Parsing Token := do
  let t ← peek
  modify (·.drop 1)
  return t

def sees (mark : String) : Parsing Bool := return (← peek).isMark mark

def seesWord (word : String) : Parsing Bool := return (← peek).isWord word

/-- Takes the next token as it is. -/
def fixed : Parsing Piece := return .fixed (← next)

def named (kind : String) : Parsing Piece := return .leaf kind true (← next)

def mark (mark : String) : Parsing Piece := do if ← sees mark then fixed else fail

def word (word : String) : Parsing Piece := do if ← seesWord word then fixed else fail

def mark? (mark : String) : Parsing (List Piece) := do
  if ← sees mark then return [← fixed] else return []

def word? (word : String) : Parsing (List Piece) := do
  if ← seesWord word then return [← fixed] else return []

def identifier (kind : String) : Parsing Piece := do
  if (← peek).isIdentifier then named kind else fail

/-- Takes the name of a variable where an expression may stand. -/
def variableName (kind : String) : Parsing Piece := do
  if (← peek).isVariable then named kind else fail

/-- Takes the end of a statement. It may be left out before a closing brace, at the end, and at the
end of a line. -/
def semicolon : Parsing (List Piece) := do
  let t ← peek
  if t.isMark ";" then return [← fixed]
  else if t.isMark "\x7d" || t.kind = .ending || t.afterNewline then return []
  else fail

/-! ## Lists -/

def untilMark (item : Parsing (List Piece)) (stop : String) : Nat → Parsing (List Piece)
  | 0 => fail
  | fuel + 1 => do
    if ← sees stop then return []
    let p ← item
    return p ++ (← untilMark item stop fuel)

/-- Parses items with commas between them until `stop` is next. A comma may be the last token. -/
def commaList (item : Parsing Piece) (stop : String) : Nat → Parsing (List Piece)
  | 0 => fail
  | fuel + 1 => do
    if ← sees stop then return []
    let p ← item
    if ← sees stop then return [p]
    let comma ← mark ","
    return p :: comma :: (← commaList item stop fuel)

def commaRow (item : Parsing Piece) : Nat → Parsing (List Piece)
  | 0 => fail
  | fuel + 1 => do
    let p ← item
    if ← sees "," then
      let comma ← fixed
      return p :: comma :: (← commaRow item fuel)
    else return [p]

end Parsing

/-! ## Looking ahead -/

def openers : List String := ["(", "[", "\x7b", "$\x7b"]

def closers : List String := [")", "]", "\x7d"]

/-- The tokens behind the `depth` groups that are open. -/
def afterGroups : Nat → List Token → List Token
  | 0, ts => ts
  | _ + 1, [] => []
  | depth + 1, t :: ts =>
    if t.kind = .punctuator ∧ openers.contains t.text then afterGroups (depth + 2) ts
    else if t.kind = .punctuator ∧ closers.contains t.text then afterGroups depth ts
    else afterGroups (depth + 1) ts

def afterGroup (ts : List Token) : List Token := afterGroups 1 (ts.drop 1)

end TruncIdiom.Script
