import TruncIdiom.Syntax.Fault

/-!
Trees: induction over them, their sizes, and their faults.

A tree has a fault to report exactly when it holds an error somewhere.
-/

namespace TruncIdiom.Syntax

/-- What holds of a node when it holds of its children holds of every tree. -/
theorem Tree.induction {motive : Tree → Prop}
    (node : ∀ info children, (∀ t ∈ children, motive t) → motive (.node info children)) :
    ∀ t, motive t := by
  intro t
  -- The recursor speaks of lists of trees as well; there the motive is of all members.
  refine @Tree.rec motive (fun ts => ∀ t ∈ ts, motive t) ?_ ?_ ?_ t
  · exact fun info children ih => node info children ih
  · exact fun t ht => absurd ht List.not_mem_nil
  · intro t ts ht hts u hu
    rcases List.mem_cons.mp hu with rfl | hu
    · exact ht
    · exact hts u hu

/-! ## Sizes -/

theorem Tree.size_pos (t : Tree) : 0 < t.size := by
  cases t
  exact Nat.succ_pos _

theorem Tree.sizeAll_append (ts us : List Tree) :
    sizeAll (ts ++ us) = sizeAll ts + sizeAll us := by
  induction ts with
  | nil => simp [sizeAll]
  | cons t ts ih => rw [List.cons_append, sizeAll, sizeAll, ih, Nat.add_assoc]

theorem Tree.sizeAll_le_of_sublist {ts us : List Tree} (h : ts.Sublist us) :
    sizeAll ts ≤ sizeAll us := by
  induction h with
  | slnil => exact Nat.le_refl _
  | cons u _ ih =>
    rw [sizeAll]
    omega
  | cons_cons t _ ih =>
    rw [sizeAll, sizeAll]
    omega

/-! ## Faults -/

theorem isSome_firstFault? (t : Tree) : t.firstFault?.isSome = t.hasError := by
  unfold Tree.firstFault?
  cases t.hasError with
  | false => rfl
  | true => rw [if_pos rfl]; split <;> rfl

theorem firstFault?_eq_none {t : Tree} : t.firstFault? = none ↔ t.hasError = false := by
  rw [← isSome_firstFault?, Option.isSome_eq_false_iff, Option.isNone_iff_eq_none]

theorem exists_firstFault? {t : Tree} (h : t.hasError = true) :
    ∃ node, t.firstFault? = some node := by
  rwa [← isSome_firstFault?, Option.isSome_iff_exists] at h

end TruncIdiom.Syntax
