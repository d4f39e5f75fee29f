import TruncIdiom.Proofs.Syntax.Operand
import TruncIdiom.Rule.Truncation

/-!
The idioms that cut a number to a whole one, apart from any check.

A node is an idiom when it puts a truncating operator between an operand and the literal zero, or
when it is a pair of complements over an operand that is no complement. `Idiom` says so of the
place, the source and the operands alone: not of what is reported there, nor of a replacement.
-/

namespace TruncIdiom.Rule

open Text Syntax

/-! ## Operators with zero -/

/-- Whether a node is an operation with an operator that truncates, or an assignment with one. -/
def Truncates (source : Bytes) (l : Location) : Prop :=
  l.kind = "binary_expression" ∧ l.tree.operatorText source ∈ ["|", ">>", "<<", "^"] ∨
    l.kind = "augmented_assignment_expression" ∧
      withoutEquals (l.tree.operatorText source) ∈ ["|", ">>", "<<", "^"]

instance (source : Bytes) (l : Location) : Decidable (Truncates source l) :=
  inferInstanceAs (Decidable (_ ∨ _))

def Zero (source : Bytes) (l : Location) : Prop := l.kind = "number" ∧ l.info.text source = "0"

instance (source : Bytes) (l : Location) : Decidable (Zero source l) :=
  inferInstanceAs (Decidable (_ ∧ _))

/-- A node with its operands, without parentheses: a truncating operator and the literal zero on
its right. -/
structure BitwiseZero (source : Bytes) (l left right : Location) : Prop where
  operator : Truncates source l
  onLeft : l.operand? "left" = some left
  onRight : l.operand? "right" = some right
  zero : Zero source right

/-! ## Double complements -/

def Complement (source : Bytes) (l : Location) : Prop :=
  l.kind = "unary_expression" ∧ l.tree.operatorText source = "~"

instance (source : Bytes) (l : Location) : Decidable (Complement source l) :=
  inferInstanceAs (Decidable (_ ∧ _))

/-- A complement of a complement, with the operand of the inner one, which is none itself. -/
structure DoubleComplement (source : Bytes) (l inner target : Location) : Prop where
  outer : Complement source l
  argument : l.operand? "argument" = some inner
  again : Complement source inner
  operand : inner.operand? "argument" = some target
  last : ¬ Complement source target

/-! ## Idioms -/

/-- A node that truncates. -/
inductive Idiom (source : Bytes) (l : Location) : Prop
  | zero {left right : Location} (h : BitwiseZero source l left right)
  | complement {inner target : Location} (h : DoubleComplement source l inner target)

theorem idiom_iff {source : Bytes} {l : Location} :
    Idiom source l ↔
      (Truncates source l ∧ (l.operand? "left").isSome ∧
        ∃ right ∈ l.operand? "right", Zero source right) ∨
      (Complement source l ∧ ∃ inner ∈ l.operand? "argument", Complement source inner ∧
        ∃ target ∈ inner.operand? "argument", ¬ Complement source target) := by
  constructor
  · intro h
    cases h with
    | zero h =>
      left
      exact ⟨h.operator, by rw [h.onLeft]; rfl, _, h.onRight, h.zero⟩
    | complement h =>
      right
      exact ⟨h.outer, _, h.argument, h.again, _, h.operand, h.last⟩
  · rintro (⟨hoperator, hleft, right, hright, hzero⟩ |
      ⟨houter, inner, hargument, hinner, target, htarget, hlast⟩)
    · obtain ⟨left, hleft⟩ := Option.isSome_iff_exists.mp hleft
      exact .zero ⟨hoperator, hleft, hright, hzero⟩
    · exact .complement ⟨houter, hargument, hinner, htarget, hlast⟩

instance (source : Bytes) (l : Location) : Decidable (Idiom source l) :=
  decidable_of_iff _ idiom_iff.symm

theorem Idiom.operatorText_ne_empty {source : Bytes} {l : Location} (h : Idiom source l) :
    l.tree.operatorText source ≠ "" := by
  intro hempty
  cases h with
  | zero h =>
    have hoperator := h.operator
    rw [Truncates, hempty] at hoperator
    rcases hoperator with ⟨-, hmem⟩ | ⟨-, hmem⟩
    · exact absurd hmem (by decide)
    · exact absurd hmem (by decide)
  | complement h =>
    have hoperator := h.outer.2
    rw [hempty] at hoperator
    exact absurd hoperator (by decide)

end TruncIdiom.Rule
