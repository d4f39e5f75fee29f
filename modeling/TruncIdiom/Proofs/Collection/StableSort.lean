import Mathlib.Data.List.Forall2
import TruncIdiom.Collection.StableSort

/-!
What stable sorting keeps.

`stableSort` gives the same elements in order, and elements that tie as they stood. These two facts
leave no choice: `stableSort_congr` says that lists which agree on every class of elements that tie
are sorted to the same list. A list that is in order is sorted already, and elements may be left out
before or after (`filter_stableSort`). The order turned round sorts backwards, but for elements that
tie (`stableSort_flip`). Two lists in step stay in step when the pairs are ordered alike
(`forall₂_stableSort`).
-/

namespace TruncIdiom.Collection

/-- An order to sort by: any two elements compare, and they may tie. -/
structure Ranking {α : Type} (le : α → α → Bool) : Prop where
  total : ∀ a b, le a b = true ∨ le b a = true
  trans : ∀ a b c, le a b = true → le b c = true → le a c = true

/-- Whether neither of two elements has to come first. -/
def tied {α : Type} (le : α → α → Bool) (a b : α) : Bool := le a b && le b a

section
variable {α : Type} {le : α → α → Bool}

/-! ## The same elements -/

theorem insertSorted_perm (x : α) (ys : List α) : (insertSorted le x ys).Perm (x :: ys) := by
  induction ys with
  | nil => exact List.Perm.refl _
  | cons y ys ih =>
    simp only [insertSorted]
    split
    · exact List.Perm.refl _
    · exact (ih.cons y).trans (List.Perm.swap x y ys)

theorem stableSort_perm (xs : List α) : (stableSort le xs).Perm xs := by
  induction xs with
  | nil => exact List.Perm.refl _
  | cons x xs ih => exact (insertSorted_perm x _).trans (ih.cons x)

theorem mem_stableSort {x : α} {xs : List α} : x ∈ stableSort le xs ↔ x ∈ xs :=
  (stableSort_perm xs).mem_iff

/-! ## In order -/

theorem pairwise_insertSorted (hle : Ranking le) (x : α) {ys : List α}
    (h : ys.Pairwise (le · · = true)) : (insertSorted le x ys).Pairwise (le · · = true) := by
  induction ys with
  | nil => simp [insertSorted]
  | cons y ys ih =>
    obtain ⟨hy, hys⟩ := List.pairwise_cons.mp h
    simp only [insertSorted]
    split
    · next hxy =>
      refine List.pairwise_cons.mpr ⟨?_, h⟩
      intro z hz
      rcases List.mem_cons.mp hz with rfl | hz
      · exact hxy
      · exact hle.trans _ _ _ hxy (hy z hz)
    · next hxy =>
      refine List.pairwise_cons.mpr ⟨?_, ih hys⟩
      intro z hz
      rcases List.mem_cons.mp ((insertSorted_perm x ys).mem_iff.mp hz) with rfl | hz
      · exact (hle.total y z).resolve_right hxy
      · exact hy z hz

theorem pairwise_stableSort (hle : Ranking le) (xs : List α) :
    (stableSort le xs).Pairwise (le · · = true) := by
  induction xs with
  | nil => exact List.Pairwise.nil
  | cons x xs ih => exact pairwise_insertSorted hle x ih

theorem stableSort_eq_self {xs : List α} (h : xs.Pairwise (le · · = true)) :
    stableSort le xs = xs := by
  induction xs with
  | nil => rfl
  | cons x xs ih =>
    obtain ⟨hx, hxs⟩ := List.pairwise_cons.mp h
    have hinsert : insertSorted le x xs = x :: xs := by
      cases xs with
      | nil => rfl
      | cons y ys => simp [insertSorted, hx y List.mem_cons_self]
    rw [stableSort, List.foldr_cons, ← stableSort, ih hxs, hinsert]

/-! ## Ties -/

/-- An element is put behind others only if it does not tie with them. -/
theorem filter_tied_insertSorted (hle : Ranking le) (a x : α) (ys : List α) :
    (insertSorted le x ys).filter (tied le a) = (x :: ys).filter (tied le a) := by
  induction ys with
  | nil => rfl
  | cons y ys ih =>
    simp only [insertSorted]
    split
    · rfl
    · next hxy =>
      have hapart : ¬(tied le a x = true ∧ tied le a y = true) := by
        simp only [tied, Bool.and_eq_true]
        rintro ⟨⟨-, hxa⟩, hay, -⟩
        exact hxy (hle.trans _ _ _ hxa hay)
      rw [List.filter_cons, ih]
      cases hx : tied le a x <;> cases hy : tied le a y <;> simp_all

theorem filter_tied_stableSort (hle : Ranking le) (a : α) (xs : List α) :
    (stableSort le xs).filter (tied le a) = xs.filter (tied le a) := by
  induction xs with
  | nil => rfl
  | cons x xs ih =>
    rw [stableSort, List.foldr_cons, ← stableSort, filter_tied_insertSorted hle, List.filter_cons,
      List.filter_cons, ih]

theorem tied_self (hle : Ranking le) (a : α) : tied le a a = true := by
  have h := hle.total a a
  simpa [tied] using h

/-- The first of two lists in order is no further than any element of the other, when they hold
the same classes. -/
theorem le_head_of_filter_tied (hle : Ranking le) {x y : α} {xs ys : List α}
    (hy : (y :: ys).Pairwise (le · · = true))
    (h : (x :: xs).filter (tied le x) = (y :: ys).filter (tied le x)) : le y x = true := by
  have hx : x ∈ (y :: ys).filter (tied le x) := by
    rw [← h]
    exact List.mem_filter.mpr ⟨List.mem_cons_self, tied_self hle x⟩
  rcases List.mem_cons.mp (List.mem_filter.mp hx).1 with rfl | hmem
  · exact (hle.total x x).elim id id
  · exact (List.pairwise_cons.mp hy).1 x hmem

theorem eq_of_filter_tied (hle : Ranking le) {xs ys : List α}
    (hxs : xs.Pairwise (le · · = true)) (hys : ys.Pairwise (le · · = true))
    (h : ∀ a, xs.filter (tied le a) = ys.filter (tied le a)) : xs = ys := by
  induction xs generalizing ys with
  | nil =>
    cases ys with
    | nil => rfl
    | cons y ys => simpa [tied_self hle y] using h y
  | cons x xs ih =>
    cases ys with
    | nil => simpa [tied_self hle x] using h x
    | cons y ys =>
      have hxy : tied le x y = true := by
        simp [tied, le_head_of_filter_tied hle hys (h x),
          le_head_of_filter_tied hle hxs (h y).symm]
      -- The heads tie, and each is the first of its class.
      have hheads := h x
      rw [List.filter_cons_of_pos (tied_self hle x), List.filter_cons_of_pos hxy] at hheads
      obtain ⟨rfl, -⟩ := List.cons.inj hheads
      congr 1
      refine ih (List.pairwise_cons.mp hxs).2 (List.pairwise_cons.mp hys).2 ?_
      intro a
      have ha := h a
      rw [List.filter_cons, List.filter_cons] at ha
      split at ha
      · exact (List.cons.inj ha).2
      · exact ha

/-- Only the order of elements that tie matters to the result. -/
theorem stableSort_congr (hle : Ranking le) {xs ys : List α}
    (h : ∀ a, xs.filter (tied le a) = ys.filter (tied le a)) :
    stableSort le xs = stableSort le ys := by
  refine eq_of_filter_tied hle (pairwise_stableSort hle xs) (pairwise_stableSort hle ys) ?_
  intro a
  rw [filter_tied_stableSort hle, filter_tied_stableSort hle, h a]

theorem filter_stableSort (hle : Ranking le) (p : α → Bool) (xs : List α) :
    (stableSort le xs).filter p = stableSort le (xs.filter p) := by
  have hfiltered : ((stableSort le xs).filter p).Pairwise (le · · = true) :=
    (pairwise_stableSort hle xs).filter p
  have hswap : ∀ (q : α → Bool) (ys : List α), (ys.filter p).filter q = (ys.filter q).filter p := by
    intro q ys
    simp only [List.filter_filter, Bool.and_comm]
  apply eq_of_filter_tied hle hfiltered (pairwise_stableSort hle _)
  intro a
  calc ((stableSort le xs).filter p).filter (tied le a)
    _ = ((stableSort le xs).filter (tied le a)).filter p := hswap _ _
    _ = (xs.filter (tied le a)).filter p := by rw [filter_tied_stableSort hle]
    _ = (xs.filter p).filter (tied le a) := (hswap _ _).symm
    _ = (stableSort le (xs.filter p)).filter (tied le a) := (filter_tied_stableSort hle a _).symm

/-! ## The order turned round -/

theorem Ranking.flip (hle : Ranking le) : Ranking fun a b => le b a where
  total a b := hle.total b a
  trans _ _ _ hab hbc := hle.trans _ _ _ hbc hab

theorem tied_flip (le : α → α → Bool) : tied (fun a b => le b a) = tied le := by
  funext a b
  exact Bool.and_comm _ _

/-- The order turned round sorts a list backwards, but for elements that tie: those stand as they
are given either way, so backwards it is the list that has to be turned round first. -/
theorem stableSort_flip (hle : Ranking le) (xs : List α) :
    stableSort (fun a b => le b a) xs = (stableSort le xs.reverse).reverse := by
  have hordered : (stableSort le xs.reverse).reverse.Pairwise fun a b => le b a = true :=
    List.pairwise_reverse.mpr (pairwise_stableSort hle xs.reverse)
  refine eq_of_filter_tied hle.flip (pairwise_stableSort hle.flip xs) hordered ?_
  intro a
  rw [filter_tied_stableSort hle.flip, tied_flip, List.filter_reverse, filter_tied_stableSort hle,
    List.filter_reverse, List.reverse_reverse]

/-- What it is to sort a list and leave elements that tie as they stood. -/
structure StablySorted (le : α → α → Bool) (xs sorted : List α) : Prop where
  perm : sorted.Perm xs
  ordered : sorted.Pairwise (le · · = true)
  ties : ∀ a, sorted.filter (tied le a) = xs.filter (tied le a)

theorem stablySorted_stableSort (hle : Ranking le) (xs : List α) :
    StablySorted le xs (stableSort le xs) where
  perm := stableSort_perm xs
  ordered := pairwise_stableSort hle xs
  ties a := filter_tied_stableSort hle a xs

/-! ## Keys -/

theorem map_insertSorted {β : Type} (key : β → α) (x : β) (ys : List β) :
    (insertSorted (fun a b => le (key a) (key b)) x ys).map key =
      insertSorted le (key x) (ys.map key) := by
  induction ys with
  | nil => rfl
  | cons y ys ih =>
    simp only [insertSorted, List.map_cons]
    split
    · rfl
    · rw [List.map_cons, ih]

theorem map_stableSort {β : Type} (key : β → α) (xs : List β) :
    (stableSort (fun a b => le (key a) (key b)) xs).map key = stableSort le (xs.map key) := by
  induction xs with
  | nil => rfl
  | cons x xs ih =>
    rw [stableSort, List.foldr_cons, ← stableSort, map_insertSorted, ih]
    rfl

/-! ## Two lists in step -/

section
variable {β : Type} {R : α → β → Prop} {le' : β → β → Bool}

theorem forall₂_insertSorted (hle : ∀ a b x y, R a x → R b y → le a b = le' x y) {a : α} {x : β}
    {xs : List α} {ys : List β} (hax : R a x) (h : List.Forall₂ R xs ys) :
    List.Forall₂ R (insertSorted le a xs) (insertSorted le' x ys) := by
  induction h with
  | nil => exact .cons hax .nil
  | cons hby hrest ih =>
    rw [insertSorted, insertSorted, hle _ _ _ _ hax hby]
    split
    · exact .cons hax (.cons hby hrest)
    · exact .cons hby ih

theorem forall₂_stableSort (hle : ∀ a b x y, R a x → R b y → le a b = le' x y) {xs : List α}
    {ys : List β} (h : List.Forall₂ R xs ys) :
    List.Forall₂ R (stableSort le xs) (stableSort le' ys) := by
  induction h with
  | nil => exact .nil
  | cons hax _ ih => exact forall₂_insertSorted hle hax ih

end

end

end TruncIdiom.Collection
