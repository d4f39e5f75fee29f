import TruncIdiom.Rule.Check
import TruncIdiom.Rule.SideEffect
import TruncIdiom.Rule.Spacing

/-!
The rule against bitwise truncation.

Two idioms cut a number to a whole one. `x | 0`, with `>>`, `<<` and `^` as well and each also as an
assignment, does so because the operators work on integers; so does `~~x`. Both become
`Math.trunc(x)`.

* `x | 0` is common and often meant, so its replacement is only suggested.
* The other operators and `~~x` are fixed.
* An assignment whose target has a side effect is reported and left alone, for the replacement
  would evaluate the target twice.
* In a chain of complements only the innermost pair is an idiom: the operand of a pair must not be
  a complement itself.
-/

namespace TruncIdiom.Rule

open Syntax

/-- The operators that truncate when their right operand is zero. -/
def truncatingOperators : List String := ["|", ">>", "<<", "^"]

def compoundAssignment : String := "augmented_assignment_expression"

def isZeroLiteral (ctx : CheckContext) (l : Location) : Bool :=
  l.kind = "number" && ctx.text l = "0"

def isBitwiseNot (ctx : CheckContext) (l : Location) : Bool :=
  l.kind = "unary_expression" && l.tree.operatorText ctx.source = "~"

/-- The call that truncates an expression. A sequence stays one argument in parentheses of its
own. -/
def truncCall (ctx : CheckContext) (l : Location) : String :=
  let text := ctx.text l
  let argument := if l.kind = "sequence_expression" then "(" ++ text ++ ")" else text
  "Math.trunc(" ++ argument ++ ")"

/-! ## Fixes -/

/-- The fix for a truncating operator. The target of an assignment stays in its place. -/
def bitwiseZeroFix (ctx : CheckContext) (l left right : Location) :
    Except EditError (List Edit) := do
  let call := truncCall ctx left
  if l.kind = compoundAssignment then
    match l.childInField? "operator" with
    | some operator => return [← replaceNode operator.info "=", ← replaceNode right.info call]
    -- The check never comes here: without this child the text of the operator is empty, and that
    -- is no operator that truncates.
    | none => return [← replaceNode right.info call]
  else
    let spacing ← keywordSpacing l
    return spacing ++ [← replaceNode l.info call]

def doubleNotFix (ctx : CheckContext) (l target : Location) : Except EditError (List Edit) := do
  let replacement ← replaceNode l.info (truncCall ctx target)
  return replacement :: (← keywordSpacing l)

/-! ## Checks -/

def withoutEquals (operator : String) : String := String.ofList operator.toList.dropLast

/-- Reports `x OP 0` and `x OP= 0`. -/
def checkBitwiseZero : Check := fun ctx l =>
  let assigns := l.kind = compoundAssignment
  let operator := l.tree.operatorText ctx.source
  match l.operand? "left", l.operand? "right" with
  | some left, some right =>
    let bare := if assigns then withoutEquals operator else operator
    if isZeroLiteral ctx right && truncatingOperators.contains bare then
      let data : Data := [("operator", .string operator), ("value", .string (ctx.text right))]
      if assigns && hasSideEffect ctx.source ctx.gettersCount left.tree then
        { reported := [.report l.info bitwiseZeroId data none none] }
      else
        CheckRun.ofReport do
          let script ← EditScript.ofEdits (← bitwiseZeroFix ctx l left right)
          let suggestionId := if operator = "|" then some bitwiseSuggestionId else none
          return .report l.info bitwiseZeroId data (some script) suggestionId
    else .quiet
  | _, _ => .quiet

/-- Reports `~~x` where `x` is no complement. -/
def checkDoubleNot : Check := fun ctx l =>
  if isBitwiseNot ctx l then
    match l.operand? "argument" with
    | some inner =>
      if isBitwiseNot ctx inner then
        match inner.operand? "argument" with
        | some target =>
          if isBitwiseNot ctx target then .quiet
          else
            CheckRun.ofReport do
              let script ← EditScript.ofEdits (← doubleNotFix ctx l target)
              return .report l.info doubleNotId [] (some script) none
        | none => .quiet
      else .quiet
    | none => .quiet
  else .quiet

def truncationRule : Rule where
  info := truncationInfo
  entries := [
    ⟨["binary_expression", compoundAssignment], checkBitwiseZero⟩,
    ⟨["unary_expression"], checkDoubleNot⟩]

end TruncIdiom.Rule
