import Mathlib.Data.List.Flatten
import Mathlib.Data.List.Nodup
import TruncIdiom.Proofs.Syntax.Location
import TruncIdiom.Proofs.Syntax.Walk

/-!
What the preorder below a location holds, and in what order.

The list is the location and then the list of each child, so it holds what can be reached by going
down from child to child and nothing else. What surrounds a place ends with what surrounds the
location it lies below; two children of one node stand behind different numbers of siblings, so
nothing lies below both, and no place is listed twice. A cursor that runs from the location comes to
an end and lists just this (`walk_traverses`).
-/

namespace TruncIdiom.Syntax

namespace Location

variable {l p c : Location}

/-! ## What is below -/

/-- What is below a location is what paths of child numbers lead to. -/
theorem mem_preorder_iff_descend? : p ∈ l.preorder ↔ ∃ path, l.descend? path = some p := by
  constructor
  · intro hp
    obtain ⟨t, above⟩ := l
    induction t using Tree.induction generalizing above with
    | node info children ih =>
      rcases mem_preorder.mp hp with rfl | ⟨c, hc, hp⟩
      · exact ⟨[], rfl⟩
      · obtain ⟨path, hpath⟩ := ih c.tree (tree_mem_of_mem_children hc) c.above hp
        obtain ⟨n, hn⟩ := List.mem_iff_getElem?.mp hc
        refine ⟨n :: path, ?_⟩
        rw [descend?, hn]
        exact hpath
  · rintro ⟨path, hpath⟩
    induction path generalizing l with
    | nil => exact mem_preorder.mpr (.inl (Option.some.inj hpath).symm)
    | cons n path ih =>
      obtain ⟨c, hc, hpath⟩ := Option.bind_eq_some_iff.mp hpath
      exact mem_preorder.mpr (.inr ⟨c, List.mem_of_getElem? hc, ih hpath⟩)

/-! ## Each place once -/

theorem above_suffix_of_mem_preorder (h : p ∈ l.preorder) : l.above <:+ p.above := by
  obtain ⟨t, above⟩ := l
  induction t using Tree.induction generalizing above with
  | node info children ih =>
    rcases mem_preorder.mp h with rfl | ⟨c, hc, hp⟩
    · exact List.suffix_refl _
    · obtain ⟨f, habove, -⟩ := exists_frame_of_mem_children hc
      have hsuffix := ih c.tree (tree_mem_of_mem_children hc) c.above hp
      rw [habove] at hsuffix
      exact (List.suffix_cons f above).trans hsuffix

theorem disjoint_preorder {a b : Location} (hlength : a.above.length = b.above.length)
    (hne : a.above ≠ b.above) : List.Disjoint a.preorder b.preorder := by
  intro p ha hb
  have hsuffix := List.suffix_of_suffix_length_le (above_suffix_of_mem_preorder ha)
    (above_suffix_of_mem_preorder hb) (Nat.le_of_eq hlength)
  exact hne (hsuffix.eq_of_length hlength)

theorem pairwise_disjoint_siblingsFrom (parent : NodeInfo) (above : List Frame)
    (before ts : List Tree) : (siblingsFrom parent above before ts).Pairwise fun a b =>
      List.Disjoint a.preorder b.preorder := by
  induction ts generalizing before with
  | nil => exact List.Pairwise.nil
  | cons t ts ih =>
    refine List.pairwise_cons.mpr ⟨?_, ih (t :: before)⟩
    intro b hb
    obtain ⟨front, after, -, habove⟩ := mem_siblingsFrom.mp hb
    refine disjoint_preorder ?_ ?_
    · rw [habove]
      rfl
    · -- The first tree has fewer siblings before it than those that follow.
      intro heq
      rw [habove] at heq
      have hlength := congrArg (fun f => f.before.length) (List.cons.inj heq).1
      simp only [List.length_append, List.length_cons] at hlength
      omega

theorem nodup_preorder (l : Location) : l.preorder.Nodup := by
  obtain ⟨t, above⟩ := l
  induction t using Tree.induction generalizing above with
  | node info children ih =>
    rw [preorder_eq_cons, List.nodup_cons]
    constructor
    · intro hself
      obtain ⟨c, hc, hmem⟩ := List.mem_flatMap.mp hself
      obtain ⟨f, habove, -⟩ := exists_frame_of_mem_children hc
      have hlength := (above_suffix_of_mem_preorder hmem).length_le
      rw [habove, List.length_cons] at hlength
      exact Nat.not_succ_le_self _ hlength
    · refine List.nodup_flatMap.mpr ⟨?_, pairwise_disjoint_siblingsFrom _ _ _ _⟩
      intro c hc
      exact ih c.tree (tree_mem_of_mem_children hc) c.above

/-! ## Parents first -/

theorem sublist_flatMap_preorder (ls : List Location) : ls.Sublist (ls.flatMap preorder) := by
  induction ls with
  | nil => exact List.Sublist.slnil
  | cons l ls ih =>
    rw [List.flatMap_cons, preorder_eq_cons, List.cons_append]
    exact (ih.trans (List.sublist_append_right _ _)).cons_cons l

theorem cons_children_sublist (h : p ∈ l.preorder) : (p :: p.children).Sublist l.preorder := by
  obtain ⟨t, above⟩ := l
  induction t using Tree.induction generalizing above with
  | node info children ih =>
    rw [preorder_eq_cons]
    rcases mem_preorder.mp h with rfl | ⟨c, hc, hp⟩
    · exact (sublist_flatMap_preorder _).cons_cons _
    · have hbelow := ih c.tree (tree_mem_of_mem_children hc) c.above hp
      have hwhole := (List.singleton_sublist.mpr hc).flatMap preorder
      rw [List.flatMap_singleton] at hwhole
      exact (hbelow.trans hwhole).cons _

end Location

/-! ## The traversal -/

/-- From any place the run of the cursor ends, after at most two rounds a node, and lists the
place and then what each child lists, in order: what lies below the place and nothing else, each
once, and every node before its children. -/
theorem walk_traverses (l : Location) :
    ∃ rounds, rounds ≤ 2 * l.tree.size ∧ Cursor.Runs rounds ⟨l, 0⟩ false l.preorder ∧
      (∀ rounds' out, Cursor.Runs rounds' ⟨l, 0⟩ false out →
        rounds' = rounds ∧ out = l.preorder) ∧
      (∀ fuel, rounds ≤ fuel → Cursor.walk fuel ⟨l, 0⟩ false = l.preorder) ∧
      l.walk = l.preorder ∧
      l.preorder = l :: l.children.flatMap Location.preorder ∧
      (∀ p, p ∈ l.preorder ↔ ∃ path, l.descend? path = some p) ∧
      l.preorder.Nodup ∧
      ∀ p ∈ l.preorder, (p :: p.children).Sublist l.preorder := by
  obtain ⟨rounds, hrounds, hrun⟩ := exists_runs l
  refine ⟨rounds, hrounds, hrun, ?_, ?_, walk_eq_preorder l, preorder_eq_cons l, ?_,
    l.nodup_preorder, ?_⟩
  · intro rounds' out hrun'
    exact hrun.unique hrun'
  · intro fuel hfuel
    exact hrun.walk_eq hfuel
  · intro p
    exact Location.mem_preorder_iff_descend?
  · intro p hp
    exact Location.cons_children_sublist hp

end TruncIdiom.Syntax
