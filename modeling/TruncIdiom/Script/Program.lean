import TruncIdiom.Script.Lexer
import TruncIdiom.Script.Statement

/-!
The tree of a source.

`parse` reads a whole source. Where that does not work, the root holds one error node. The depth of
the goals is bounded by the number of tokens: after a few goals within goals a token is taken.
-/

namespace TruncIdiom.Script

open Text Syntax

/-- Parses a goal, with at most some goals within goals. -/
def parseGoal (bound : Nat) : Nat → Goal → Parsing Piece
  | 0, _ => Parsing.fail
  | depth + 1, goal =>
    let g : Grammar := ⟨parseGoal bound depth, bound⟩
    match goal with
    | .expression inAllowed => expression g inAllowed
    | .assignment inAllowed => assignment g inAllowed
    | .operand level inAllowed => operand g level inAllowed
    | .unary => unary g
    | .chain callsAllowed => chain g callsAllowed
    | .pattern binding => pattern g binding
    | .statement => statement g

/-- The most goals within goals that may be asked for before a token is taken. -/
def goalsPerToken : Nat := 8

def grammarFor (ts : List Token) : Grammar :=
  let bound := ts.length + 1
  ⟨parseGoal bound (goalsPerToken * bound), bound⟩

/-- The statements of a source and the comments behind them. -/
def program (ts : List Token) : Except Nat (List Piece × List Tree) := do
  let g := grammarFor ts
  let (pieces, left) ← (statements g g.bound).run ts
  return (pieces, left.flatMap fun t => t.comments.map commentTree)

def parse : Parser := fun source =>
  match tokens source >>= program with
  | .ok (pieces, atEnd) => programTree source.length pieces atEnd
  | .error offset => faultTree source.length offset

end TruncIdiom.Script
