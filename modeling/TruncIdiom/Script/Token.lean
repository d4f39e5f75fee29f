import TruncIdiom.Text.Utf8

/-!
Tokens of JavaScript.

A token knows its bytes, whether a line ended between it and the token in front, and the comments
that stand between them. The last token of a source is an empty one that stands for its end.
-/

namespace TruncIdiom.Script

/-- What a token is. A backquote is a punctuator, and what stands between it and the next backquote
or substitution is template text. -/
inductive TokenKind where
  | word
  | privateName
  | number
  | string
  | templateText
  | punctuator
  | ending
  deriving DecidableEq, Repr, Inhabited

structure Token where
  kind : TokenKind
  text : String
  start : Nat
  stop : Nat
  afterNewline : Bool := false
  comments : List (Nat × Nat) := []
  deriving DecidableEq, Repr, Inhabited

def Token.isMark (t : Token) (s : String) : Bool := t.kind = .punctuator && t.text = s

def Token.isWord (t : Token) (s : String) : Bool := t.kind = .word && t.text = s

def reservedWords : List String := [
  "break", "case", "catch", "class", "const", "continue", "debugger", "default", "delete", "do",
  "else", "enum", "export", "extends", "false", "finally", "for", "function", "if", "import", "in",
  "instanceof", "new", "null", "return", "super", "switch", "this", "throw", "true", "try",
  "typeof", "var", "void", "while", "with"]

def Token.isIdentifier (t : Token) : Bool := t.kind = .word && !reservedWords.contains t.text

/-- Whether a token names a variable where an expression may stand. The word `yield` is a keyword
there. -/
def Token.isVariable (t : Token) : Bool := t.isIdentifier && t.text ≠ "yield"

/-- The punctuators, a longer one before those it begins with. -/
def punctuators : List String := [
  ">>>=", "...", "===", "!==", "**=", "<<=", ">>=", ">>>", "&&=", "||=", "??=", "=>", "==", "!=",
  "<=", ">=", "&&", "||", "??", "?.", "++", "--", "+=", "-=", "*=", "/=", "%=", "&=", "|=", "^=",
  "<<", ">>", "**", "\x7b", "\x7d", "(", ")", "[", "]", ".", ";", ",", "<", ">", "+", "-", "*", "/",
  "%", "&", "|", "^", "!", "~", "?", ":", "="]

def compoundOperators : List String := [
  "+=", "-=", "*=", "/=", "%=", "**=", "<<=", ">>=", ">>>=", "&=", "|=", "^=", "&&=", "||=", "??="]

/-- How tight a binary operator binds, if a token is one. -/
def Token.binaryLevel? (t : Token) : Option Nat :=
  match t.kind with
  | .punctuator =>
    if t.text = "??" then some 1
    else if t.text = "||" then some 2
    else if t.text = "&&" then some 3
    else if t.text = "|" then some 4
    else if t.text = "^" then some 5
    else if t.text = "&" then some 6
    else if ["==", "!=", "===", "!=="].contains t.text then some 7
    else if ["<", ">", "<=", ">="].contains t.text then some 8
    else if ["<<", ">>", ">>>"].contains t.text then some 9
    else if ["+", "-"].contains t.text then some 10
    else if ["*", "/", "%"].contains t.text then some 11
    else if t.text = "**" then some 12
    else none
  | .word => if t.text = "in" || t.text = "instanceof" then some 8 else none
  | _ => none

end TruncIdiom.Script
