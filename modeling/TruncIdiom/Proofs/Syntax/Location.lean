import TruncIdiom.Proofs.Syntax.Tree
import TruncIdiom.Syntax.Walk

/-!
The places of a tree.

A location holds all that surrounds it, so the `whole` tree can be put together from it. Going to a
child or a parent stays in the same whole tree, and the places that the preorder of a tree lists are
exactly the locations in it (`mem_places_iff`).
-/

namespace TruncIdiom.Syntax

/-- A tree with all that surrounds it. -/
def wholeOf (t : Tree) : List Frame → Tree
  | [] => t
  | f :: above => wholeOf (f.plug t) above

/-- The tree that a location lies in. -/
def Location.whole (l : Location) : Tree := wholeOf l.tree l.above

/-! ## Children -/

theorem mem_siblingsFrom {parent : NodeInfo} {above : List Frame} {before ts : List Tree}
    {l : Location} : l ∈ Location.siblingsFrom parent above before ts ↔
      ∃ front after, ts = front ++ l.tree :: after ∧
        l.above = ⟨parent, front.reverse ++ before, after⟩ :: above := by
  induction ts generalizing before with
  | nil => simp [Location.siblingsFrom]
  | cons t ts ih =>
    rw [Location.siblingsFrom, List.mem_cons, ih]
    constructor
    · rintro (rfl | ⟨front, after, rfl, habove⟩)
      · exact ⟨[], ts, rfl, rfl⟩
      · exact ⟨t :: front, after, rfl, by simpa using habove⟩
    · rintro ⟨front, after, hts, habove⟩
      -- The location is the first of the trees when nothing stands in front of it.
      cases front with
      | nil =>
        obtain ⟨rfl, rfl⟩ := List.cons.inj hts
        left
        obtain ⟨tree, frames⟩ := l
        exact congrArg (Location.mk tree) habove
      | cons u front =>
        obtain ⟨rfl, rfl⟩ := List.cons.inj hts
        right
        exact ⟨front, after, rfl, by simpa using habove⟩

theorem exists_frame_of_mem_children {l c : Location} (h : c ∈ l.children) :
    ∃ f, c.above = f :: l.above ∧ f.plug c.tree = l.tree := by
  obtain ⟨front, after, hchildren, habove⟩ := mem_siblingsFrom.mp h
  refine ⟨_, habove, ?_⟩
  obtain ⟨tree, above⟩ := l
  cases tree
  simp only [Tree.children] at hchildren
  simp [Frame.plug, Location.info, Tree.info, hchildren]

theorem mem_children_of_frame (f : Frame) (t : Tree) (above : List Frame) :
    ⟨t, f :: above⟩ ∈ (Location.mk (f.plug t) above).children := by
  refine mem_siblingsFrom.mpr ⟨f.before.reverse, f.after, rfl, ?_⟩
  rw [List.reverse_reverse, List.append_nil]
  rfl

theorem whole_of_mem_children {l c : Location} (h : c ∈ l.children) : c.whole = l.whole := by
  obtain ⟨f, habove, hplug⟩ := exists_frame_of_mem_children h
  rw [Location.whole, habove, wholeOf, hplug, Location.whole]

theorem tree_mem_of_mem_children {l c : Location} (h : c ∈ l.children) :
    c.tree ∈ l.tree.children := by
  obtain ⟨front, after, hchildren, -⟩ := mem_siblingsFrom.mp h
  rw [hchildren]
  exact List.mem_append_right _ List.mem_cons_self

theorem size_lt_of_mem_children {l c : Location} (hc : c ∈ l.children) : c.tree.size < l.tree.size := by
  have hle := Tree.sizeAll_le_of_sublist
    (List.singleton_sublist.mpr (tree_mem_of_mem_children hc))
  obtain ⟨⟨info, children⟩, above⟩ := l
  simp only [Tree.sizeAll, Tree.children] at hle
  rw [Tree.size]
  omega

/-! ## Places -/

theorem placesFrom_eq_flatMap (parent : NodeInfo) (above : List Frame) (before ts : List Tree) :
    Tree.placesFrom parent above before ts =
      (Location.siblingsFrom parent above before ts).flatMap Location.preorder := by
  induction ts generalizing before with
  | nil => rw [Tree.placesFrom, Location.siblingsFrom, List.flatMap_nil]
  | cons t ts ih =>
    rw [Tree.placesFrom, Location.siblingsFrom, List.flatMap_cons, ih, Location.preorder]

theorem mem_placesFrom {parent : NodeInfo} {above : List Frame} {before ts : List Tree}
    {l : Location} : l ∈ Tree.placesFrom parent above before ts ↔
      ∃ c ∈ Location.siblingsFrom parent above before ts, l ∈ c.preorder := by
  rw [placesFrom_eq_flatMap, List.mem_flatMap]

theorem preorder_eq_cons (l : Location) :
    l.preorder = l :: l.children.flatMap Location.preorder := by
  obtain ⟨⟨info, children⟩, above⟩ := l
  rw [Location.preorder, Tree.places, placesFrom_eq_flatMap]
  rfl

theorem mem_preorder {l p : Location} :
    p ∈ l.preorder ↔ p = l ∨ ∃ c ∈ l.children, p ∈ c.preorder := by
  rw [preorder_eq_cons, List.mem_cons, List.mem_flatMap]

theorem whole_of_mem_preorder {l p : Location} (h : p ∈ l.preorder) : p.whole = l.whole := by
  obtain ⟨t, above⟩ := l
  induction t using Tree.induction generalizing above with
  | node info children ih =>
    rcases mem_preorder.mp h with rfl | ⟨c, hc, hp⟩
    · rfl
    · rw [← whole_of_mem_children hc]
      exact ih c.tree (tree_mem_of_mem_children hc) c.above hp

theorem mem_preorder_of_mem_children {l p c : Location} (hp : p ∈ l.preorder)
    (hc : c ∈ p.children) : c ∈ l.preorder := by
  obtain ⟨t, above⟩ := l
  induction t using Tree.induction generalizing above with
  | node info children ih =>
    rcases mem_preorder.mp hp with rfl | ⟨d, hd, hp⟩
    · exact mem_preorder.mpr (.inr ⟨c, hc, mem_preorder.mpr (.inl rfl)⟩)
    · have hmem := ih d.tree (tree_mem_of_mem_children hd) d.above hp
      exact mem_preorder.mpr (.inr ⟨d, hd, hmem⟩)

theorem mem_preorder_wholeOf (t : Tree) (above : List Frame) :
    ⟨t, above⟩ ∈ (Location.mk (wholeOf t above) []).preorder := by
  induction above generalizing t with
  | nil => exact mem_preorder.mpr (.inl rfl)
  | cons f above ih =>
    exact mem_preorder_of_mem_children (ih (f.plug t)) (mem_children_of_frame f t above)

/-- The places that the preorder of a tree lists are the locations in the tree. -/
theorem mem_places_iff {t : Tree} {l : Location} : l ∈ t.places [] ↔ l.whole = t := by
  constructor
  · intro h
    exact whole_of_mem_preorder (l := ⟨t, []⟩) h
  · rintro rfl
    exact mem_preorder_wholeOf l.tree l.above

end TruncIdiom.Syntax
