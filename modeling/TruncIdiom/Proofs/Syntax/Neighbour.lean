import TruncIdiom.Proofs.Syntax.Preorder
import TruncIdiom.Syntax.Neighbour
import TruncIdiom.Syntax.Parentheses

/-!
The leaf next to a node is the nearest of all on that side.

What stands on one side of a node is a forest: the siblings on that side of the node and of
everything above it. Without the nodes that have no width this forest has its leaves in a row, and
going up and then down finds the one at the near end (`neighbourIn_eq`). In a tree where all nodes
have width the leaves are cut at a leaf into the row before it and the row behind it
(`leaves_whole`), so the leaf after the one before is the leaf itself
(`neighbours_end_forests`).
-/

namespace TruncIdiom.Syntax

mutual

/-- The leaves of a tree in order, with their surroundings. Below the top, nodes without width are
left out with all below them; a node that this leaves without children is a leaf. -/
def Tree.leaves (above : List Frame) : Tree → List Location
  | .node info children =>
    match Tree.leavesFrom info above [] children with
    | [] => [⟨.node info children, above⟩]
    | leaf :: leaves => leaf :: leaves

/-- The leaves of trees that have `before` on their left, nearest first. -/
def Tree.leavesFrom (parent : NodeInfo) (above : List Frame) (before : List Tree) :
    List Tree → List Location
  | [] => []
  | t :: after =>
    if t.info.hasWidth then
      t.leaves (⟨parent, before, after⟩ :: above) ++ Tree.leavesFrom parent above (t :: before) after
    else Tree.leavesFrom parent above (t :: before) after

end

/-- The nodes of a tree without children, in order. -/
def Tree.tips (t : Tree) : List Location := (t.places []).filter (·.tree.children.isEmpty)

/-- A tree in which every node has width. -/
def Tree.Solid (t : Tree) : Prop := ∀ p ∈ t.places [], p.info.hasWidth = true

instance (t : Tree) : Decidable t.Solid := inferInstanceAs (Decidable (∀ _ ∈ _, _))

namespace Location

variable {l p : Location}

/-! ## Forests -/

def leaves (l : Location) : List Location := l.tree.leaves l.above

def wide (ls : List Location) : List Location := ls.filter (·.info.hasWidth)

/-- The leaves of a forest without the nodes that have no width. -/
def leavesOf (ls : List Location) : List Location := (wide ls).flatMap leaves

/-- The children of the parent on one side of a location. -/
def siblings (side : Side) (l : Location) : List Location :=
  match l.above with
  | [] => []
  | f :: above =>
    let all := children ⟨f.plug l.tree, above⟩
    match side with
    | .before => all.take f.before.length
    | .after => all.drop (f.before.length + 1)

/-- A tree in its surroundings and everything above it, from the inside out. -/
def upwardIn (t : Tree) : List Frame → List Location
  | [] => [⟨t, []⟩]
  | f :: above => ⟨t, f :: above⟩ :: upwardIn (f.plug t) above

def upward (l : Location) : List Location := upwardIn l.tree l.above

/-- The siblings on one side of a location and of everything above it, in order. -/
def forest (side : Side) (l : Location) : List Location :=
  match side with
  | .before => l.upward.reverse.flatMap (siblings .before)
  | .after => l.upward.flatMap (siblings .after)

theorem forest_top (side : Side) (t : Tree) : forest side ⟨t, []⟩ = [] := by
  cases side <;> rfl

theorem forest_before (t : Tree) (f : Frame) (above : List Frame) :
    forest .before ⟨t, f :: above⟩ =
      forest .before ⟨f.plug t, above⟩ ++ siblings .before ⟨t, f :: above⟩ := by
  simp only [forest, upward, upwardIn, List.reverse_cons, List.flatMap_append,
    List.flatMap_singleton]

theorem forest_after (t : Tree) (f : Frame) (above : List Frame) :
    forest .after ⟨t, f :: above⟩ =
      siblings .after ⟨t, f :: above⟩ ++ forest .after ⟨f.plug t, above⟩ := by
  simp only [forest, upward, upwardIn, List.flatMap_cons]

/-! ## Leaves -/

section
variable {t : Tree} {above : List Frame} {ls : List Location}

theorem wide_cons_of_pos (h : t.info.hasWidth = true) :
    wide (⟨t, above⟩ :: ls) = ⟨t, above⟩ :: wide ls :=
  List.filter_cons_of_pos h

theorem wide_cons_of_neg (h : ¬ t.info.hasWidth = true) : wide (⟨t, above⟩ :: ls) = wide ls :=
  List.filter_cons_of_neg h

theorem wide_append (front back : List Location) : wide (front ++ back) = wide front ++ wide back :=
  List.filter_append front back

theorem wide_eq_self (h : ∀ l ∈ ls, l.info.hasWidth = true) : wide ls = ls :=
  List.filter_eq_self.mpr h

theorem leavesOf_cons_of_pos (h : t.info.hasWidth = true) :
    leavesOf (⟨t, above⟩ :: ls) = t.leaves above ++ leavesOf ls := by
  rw [leavesOf, wide_cons_of_pos h, List.flatMap_cons]
  rfl

theorem leavesOf_cons_of_neg (h : ¬ t.info.hasWidth = true) :
    leavesOf (⟨t, above⟩ :: ls) = leavesOf ls := by
  rw [leavesOf, wide_cons_of_neg h, leavesOf]

theorem leavesOf_append (front back : List Location) :
    leavesOf (front ++ back) = leavesOf front ++ leavesOf back := by
  rw [leavesOf, wide_append, List.flatMap_append, leavesOf, leavesOf]

end

theorem leavesFrom_eq (parent : NodeInfo) (above : List Frame) (before ts : List Tree) :
    Tree.leavesFrom parent above before ts = leavesOf (siblingsFrom parent above before ts) := by
  induction ts generalizing before with
  | nil => rw [Tree.leavesFrom]; rfl
  | cons t ts ih =>
    rw [Tree.leavesFrom, siblingsFrom, ih]
    split
    · next hwide => exact (leavesOf_cons_of_pos hwide).symm
    · next hwide => exact (leavesOf_cons_of_neg hwide).symm

theorem leaves_eq_match (l : Location) :
    l.leaves = match leavesOf l.children with
      | [] => [l]
      | leaf :: rest => leaf :: rest := by
  obtain ⟨⟨info, children⟩, above⟩ := l
  rw [leaves, Tree.leaves, leavesFrom_eq]
  rfl

theorem leaves_ne_nil (l : Location) : l.leaves ≠ [] := by
  rw [leaves_eq_match]
  split <;> exact List.cons_ne_nil _ _

theorem leavesOf_eq_nil_iff {ls : List Location} : leavesOf ls = [] ↔ wide ls = [] := by
  rw [leavesOf, List.flatMap_eq_nil_iff, List.eq_nil_iff_forall_not_mem]
  exact forall_congr' fun l => imp_congr_right fun _ => iff_false_intro l.leaves_ne_nil

theorem leaves_of_wide_eq_nil (h : wide l.children = []) : l.leaves = [l] := by
  rw [leaves_eq_match, leavesOf_eq_nil_iff.mpr h]

theorem leaves_of_wide_ne_nil (h : wide l.children ≠ []) : l.leaves = leavesOf l.children := by
  rw [leaves_eq_match]
  split
  · next heq => exact absurd (leavesOf_eq_nil_iff.mp heq) h
  · next heq => exact heq.symm

/-! ## The leaf at one end -/

theorem endOf?_eq_none_iff {side : Side} {ls : List Location} : endOf? side ls = none ↔ ls = [] := by
  cases side with
  | before => exact List.getLast?_eq_none_iff
  | after => exact List.head?_eq_none_iff

theorem mem_of_endOf? {side : Side} {ls : List Location} (h : endOf? side ls = some l) : l ∈ ls := by
  cases side with
  | before => exact List.mem_of_getLast? h
  | after => exact List.mem_of_head? h

theorem endOf?_flatMap {f : Location → List Location} {ls : List Location} (side : Side)
    (h : ∀ l ∈ ls, f l ≠ []) :
    endOf? side (ls.flatMap f) = (endOf? side ls).bind fun l => endOf? side (f l) := by
  cases side with
  | before =>
    rcases List.eq_nil_or_concat ls with rfl | ⟨front, last, rfl⟩
    · rfl
    · have hlast := List.getLast?_eq_some_getLast (h last (by simp))
      simp [endOf?, hlast]
  | after =>
    cases ls with
    | nil => rfl
    | cons first back =>
      have hfirst := List.head?_eq_some_head (h first List.mem_cons_self)
      simp [endOf?, hfirst]

theorem endOf?_leavesOf (side : Side) (ls : List Location) :
    endOf? side (leavesOf ls) = (endOf? side (wide ls)).bind fun l => endOf? side l.leaves :=
  endOf?_flatMap side fun l _ => l.leaves_ne_nil

/-- Going down along one side ends at the last of the leaves on that side. -/
theorem endOf?_leaves_eq_edgeLeafFrom (side : Side) {fuel : Nat} (hfuel : l.tree.size ≤ fuel) :
    endOf? side l.leaves = some (edgeLeafFrom side fuel l) := by
  induction fuel generalizing l with
  | zero =>
    have hpos := l.tree.size_pos
    omega
  | succ fuel ih =>
    rw [edgeLeafFrom]
    split
    · next child hchild =>
      have hmem := mem_of_endOf? hchild
      have hsize := size_lt_of_mem_children (List.mem_filter.mp hmem).1
      rw [leaves_of_wide_ne_nil (List.ne_nil_of_mem hmem), endOf?_leavesOf]
      show (endOf? side l.wideChildren).bind _ = _
      rw [hchild]
      exact ih (by omega)
    · next hnone =>
      rw [leaves_of_wide_eq_nil (endOf?_eq_none_iff.mp hnone)]
      cases side <;> rfl

theorem endOf?_leaves (side : Side) (l : Location) :
    endOf? side l.leaves = some (edgeLeaf side l) :=
  endOf?_leaves_eq_edgeLeafFrom side (Nat.le_refl _)

/-! ## Siblings -/

theorem drop_siblingsFrom (parent : NodeInfo) (above : List Frame) (before front ts : List Tree) :
    (siblingsFrom parent above before (front ++ ts)).drop front.length =
      siblingsFrom parent above (front.reverse ++ before) ts := by
  induction front generalizing before with
  | nil => rfl
  | cons t front ih =>
    rw [List.cons_append, siblingsFrom, List.length_cons, List.drop_succ_cons, ih,
      List.reverse_cons, List.append_assoc, List.singleton_append]

theorem drop_children_plug (f : Frame) (t : Tree) (above : List Frame) :
    (children ⟨f.plug t, above⟩).drop f.before.length =
      ⟨t, f :: above⟩ :: siblingsFrom f.parent above (t :: f.before) f.after := by
  have hdrop := drop_siblingsFrom f.parent above [] f.before.reverse (t :: f.after)
  rw [List.length_reverse, List.reverse_reverse, List.append_nil] at hdrop
  exact hdrop

theorem siblings_after (f : Frame) (t : Tree) (above : List Frame) :
    siblings .after ⟨t, f :: above⟩ = siblingsFrom f.parent above (t :: f.before) f.after := by
  show (children ⟨f.plug t, above⟩).drop (f.before.length + 1) = _
  rw [← List.drop_drop, drop_children_plug, List.drop_one, List.tail_cons]

theorem children_plug (f : Frame) (t : Tree) (above : List Frame) :
    children ⟨f.plug t, above⟩ = siblings .before ⟨t, f :: above⟩ ++ ⟨t, f :: above⟩ ::
      siblings .after ⟨t, f :: above⟩ := by
  rw [siblings_after, ← drop_children_plug]
  exact (List.take_append_drop f.before.length _).symm

theorem nearestWide_after (parent : NodeInfo) (above : List Frame) (t : Tree)
    (far near : List Tree) :
    ((nearestWide t far near).map fun (s, after, before) => ⟨s, ⟨parent, before, after⟩ :: above⟩) =
      (wide (siblingsFrom parent above (t :: far) near)).head? := by
  induction near generalizing t far with
  | nil => rfl
  | cons s near ih =>
    rw [nearestWide, siblingsFrom]
    split
    · next hwide => rw [wide_cons_of_pos hwide]; rfl
    · next hwide => rw [wide_cons_of_neg hwide, ← ih s (t :: far)]

theorem nearestWide_before (parent : NodeInfo) (above : List Frame) (t : Tree)
    (far near : List Tree) :
    ((nearestWide t far near).map fun (s, before, after) => ⟨s, ⟨parent, before, after⟩ :: above⟩) =
      (wide ((siblingsFrom parent above [] (near.reverse ++ t :: far)).take near.length)).getLast? := by
  induction near generalizing t far with
  | nil => rfl
  | cons s near ih =>
    have hdrop := drop_siblingsFrom parent above [] near.reverse (s :: t :: far)
    rw [List.length_reverse, List.reverse_reverse, List.append_nil, siblingsFrom] at hdrop
    have hlist : (s :: near).reverse ++ t :: far = near.reverse ++ s :: t :: far := by simp
    have hlast := List.head?_drop (l := siblingsFrom parent above [] (near.reverse ++ s :: t :: far))
      (i := near.length)
    rw [hdrop, List.head?_cons] at hlast
    rw [hlist, List.length_cons, List.take_add_one, ← hlast, nearestWide, Option.toList_some,
      wide_append]
    split
    · next hwide =>
      rw [wide_cons_of_pos hwide]
      exact List.getLast?_concat.symm
    · next hwide =>
      rw [wide_cons_of_neg hwide, ih s (t :: far)]
      exact congrArg List.getLast? (List.append_nil _).symm

theorem wideSibling?_eq (side : Side) (t : Tree) (f : Frame) (above : List Frame) :
    wideSibling? side t f above = endOf? side (wide (siblings side ⟨t, f :: above⟩)) := by
  cases side with
  | before =>
    show Option.map _ (nearestWide t f.after f.before) = _
    rw [nearestWide_before]
    rfl
  | after =>
    show Option.map _ (nearestWide t f.before f.after) = _
    rw [nearestWide_after, ← siblings_after]
    rfl

/-! ## Up and down -/

/-- Going up until there is a sibling of any width, and down to its last leaf on that side, ends at
the near end of the forest. -/
theorem neighbourIn_eq (side : Side) (t : Tree) (above : List Frame) :
    neighbourIn side t above = endOf? side (leavesOf (forest side ⟨t, above⟩)) := by
  induction above generalizing t with
  | nil =>
    rw [forest_top]
    cases side <;> rfl
  | cons f above ih =>
    have hsibling : endOf? side (leavesOf (siblings side ⟨t, f :: above⟩)) =
        (wideSibling? side t f above).map (edgeLeaf side) := by
      rw [endOf?_leavesOf, wideSibling?_eq]
      simp only [endOf?_leaves]
      exact Option.map_eq_bind.symm
    have hforest : endOf? side (leavesOf (forest side ⟨t, f :: above⟩)) =
        (endOf? side (leavesOf (siblings side ⟨t, f :: above⟩))).or
          (endOf? side (leavesOf (forest side ⟨f.plug t, above⟩))) := by
      cases side with
      | before =>
        rw [forest_before, leavesOf_append]
        exact List.getLast?_append
      | after =>
        rw [forest_after, leavesOf_append]
        exact List.head?_append
    rw [hforest, hsibling, neighbourIn, ← ih]
    cases wideSibling? side t f above <;> rfl

theorem neighbourIn_eq_none_iff (side : Side) (t : Tree) (above : List Frame) :
    neighbourIn side t above = none ↔ wide (forest side ⟨t, above⟩) = [] := by
  rw [neighbourIn_eq, endOf?_eq_none_iff, leavesOf_eq_nil_iff]

/-! ## Solid trees -/

theorem leaves_eq_filter (h : ∀ p ∈ l.preorder, p.info.hasWidth = true) :
    l.leaves = l.preorder.filter (·.tree.children.isEmpty) := by
  obtain ⟨t, above⟩ := l
  induction t using Tree.induction generalizing above with
  | node info children ih =>
    have hbelow : ∀ c ∈ (Location.mk (.node info children) above).children,
        c.leaves = c.preorder.filter (·.tree.children.isEmpty) := by
      intro c hc
      refine ih c.tree (tree_mem_of_mem_children hc) c.above ?_
      intro p hp
      exact h p (mem_preorder.mpr (.inr ⟨c, hc, hp⟩))
    have hwide : wide (Location.mk (.node info children) above).children =
        (Location.mk (.node info children) above).children := by
      refine wide_eq_self fun c hc => ?_
      exact h c (mem_preorder.mpr (.inr ⟨c, hc, mem_preorder.mpr (.inl rfl)⟩))
    rw [preorder_eq_cons]
    cases children with
    | nil => rfl
    | cons t ts =>
      have hne : wide (Location.mk (.node info (t :: ts)) above).children ≠ [] := by
        rw [hwide]
        exact List.cons_ne_nil _ _
      rw [leaves_of_wide_ne_nil hne, leavesOf, hwide, List.filter_cons_of_neg Bool.false_ne_true,
        List.filter_flatMap]
      exact List.flatMap_congr fun c hc => hbelow c hc

theorem whole_of_mem_upward (h : p ∈ l.upward) : p.whole = l.whole := by
  obtain ⟨t, above⟩ := l
  induction above generalizing t with
  | nil =>
    rw [List.mem_singleton.mp h]
  | cons f above ih =>
    rcases List.mem_cons.mp h with rfl | h
    · rfl
    · exact ih (f.plug t) h

/-- Where everything above a location has width, the leaves of the whole tree are those before
it, its own, and those behind it. -/
theorem leaves_whole (h : ∀ p ∈ l.upward, p.info.hasWidth = true) :
    leaves ⟨l.whole, []⟩ =
      leavesOf (l.forest .before) ++ l.leaves ++ leavesOf (l.forest .after) := by
  obtain ⟨t, above⟩ := l
  induction above generalizing t with
  | nil =>
    rw [forest_top, forest_top]
    exact (List.append_nil _).symm
  | cons f above ih =>
    have hself : t.info.hasWidth = true := h ⟨t, f :: above⟩ List.mem_cons_self
    have hwide : wide (children ⟨f.plug t, above⟩) ≠ [] := by
      have hmem := mem_children_of_frame f t above
      exact List.ne_nil_of_mem (List.mem_filter.mpr ⟨hmem, hself⟩)
    have hplug : leaves ⟨f.plug t, above⟩ = leavesOf (siblings .before ⟨t, f :: above⟩) ++
        (t.leaves (f :: above) ++ leavesOf (siblings .after ⟨t, f :: above⟩)) := by
      rw [leaves_of_wide_ne_nil hwide, children_plug, leavesOf_append, leavesOf_cons_of_pos hself]
    have hwhole := ih (f.plug t) fun p hp => h p (List.mem_cons_of_mem _ hp)
    rw [hplug] at hwhole
    rw [forest_before, forest_after, leavesOf_append, leavesOf_append]
    show leaves ⟨(Location.mk (f.plug t) above).whole, []⟩ = _
    rw [hwhole]
    simp only [List.append_assoc]
    rfl

/-! ## Neighbours of leaves -/

/-- In a solid tree a leaf stands between the leaves of the forests on its sides. -/
theorem tips_eq (h : l.whole.Solid) (hleaf : l.tree.children = []) :
    l.whole.tips = leavesOf (l.forest .before) ++ l :: leavesOf (l.forest .after) := by
  have hupward : ∀ p ∈ l.upward, p.info.hasWidth = true := by
    intro p hp
    exact h p (mem_places_iff.mpr (whole_of_mem_upward hp))
  have hself : l.leaves = [l] := by
    refine leaves_of_wide_eq_nil ?_
    rw [children, hleaf]
    rfl
  have htips : leaves ⟨l.whole, []⟩ = l.whole.tips := leaves_eq_filter h
  rw [← htips, leaves_whole hupward, hself, List.append_assoc, List.singleton_append]

theorem whole_of_mem_tips {t : Tree} (h : p ∈ t.tips) : p.whole = t :=
  mem_places_iff.mp (List.mem_filter.mp h).1

/-- Where a leaf is cut out of the leaves of a solid tree, its neighbours stand on either side of
the cut. -/
theorem neighbours_of_tips {front back : List Location} (h : l.whole.Solid)
    (htips : l.whole.tips = front ++ l :: back) :
    l.previousLeaf? = front.getLast? ∧ l.nextLeaf? = back.head? := by
  have hmem : l ∈ l.whole.tips := htips ▸ List.mem_append_right front List.mem_cons_self
  have hleaf : l.tree.children = [] := List.isEmpty_iff.mp (List.mem_filter.mp hmem).2
  -- No leaf stands twice in the row, so there is one way to cut it.
  have hnodup : l.whole.tips.Nodup := (nodup_preorder ⟨l.whole, []⟩).filter _
  rw [htips, List.nodup_middle, List.nodup_cons, List.mem_append, not_or] at hnodup
  have hcut := tips_eq h hleaf
  rw [htips, List.append_cons_inj_of_notMem hnodup.1.1 hnodup.1.2] at hcut
  obtain ⟨rfl, -, rfl⟩ := hcut
  exact ⟨neighbourIn_eq .before l.tree l.above, neighbourIn_eq .after l.tree l.above⟩

theorem next_of_previous (h : l.whole.Solid) (hleaf : l.tree.children = [])
    (hfirst : l.whole.tips.head? ≠ some l) : l.previousLeaf?.bind nextLeaf? = some l := by
  have htips := tips_eq h hleaf
  rcases List.eq_nil_or_concat (leavesOf (l.forest .before)) with hnil | ⟨front, p, hfront⟩
  · rw [htips, hnil] at hfirst
    exact absurd rfl hfirst
  · rw [List.concat_eq_append] at hfront
    rw [hfront, List.append_assoc, List.singleton_append] at htips
    have hp : p.whole = l.whole :=
      whole_of_mem_tips (htips ▸ List.mem_append_right front List.mem_cons_self)
    have hprevious := (neighbours_of_tips h (tips_eq h hleaf)).1
    have hnext := (neighbours_of_tips (hp ▸ h) (hp ▸ htips)).2
    rw [hprevious, hfront, List.getLast?_concat, Option.bind_some, hnext, List.head?_cons]

theorem previous_of_next (h : l.whole.Solid) (hleaf : l.tree.children = [])
    (hlast : l.whole.tips.getLast? ≠ some l) : l.nextLeaf?.bind previousLeaf? = some l := by
  have htips := tips_eq h hleaf
  cases hback : leavesOf (l.forest .after) with
  | nil =>
    rw [htips, hback, List.getLast?_concat] at hlast
    exact absurd rfl hlast
  | cons p back =>
    rw [hback, ← List.singleton_append, ← List.append_assoc] at htips
    have hp : p.whole = l.whole :=
      whole_of_mem_tips (htips ▸ List.mem_append_right _ List.mem_cons_self)
    have hnext := (neighbours_of_tips h (tips_eq h hleaf)).2
    have hprevious := (neighbours_of_tips (hp ▸ h) (hp ▸ htips)).1
    rw [hnext, hback, List.head?_cons, Option.bind_some, hprevious, List.getLast?_concat]

/-- The leaf just before a node is the last leaf of the forest on that side and the leaf just after
it the first one on the other, and there is none exactly when nothing in the forest has width. Among
the leaves of a tree whose nodes all have width, the two lead back and forth. -/
theorem neighbours_end_forests (l : Location) :
    l.previousLeaf? = (leavesOf (l.forest .before)).getLast? ∧
      (l.previousLeaf? = none ↔ wide (l.forest .before) = []) ∧
      l.nextLeaf? = (leavesOf (l.forest .after)).head? ∧
      (l.nextLeaf? = none ↔ wide (l.forest .after) = []) ∧
      (l.whole.Solid → l.tree.children = [] →
        (l.whole.tips.head? ≠ some l → l.previousLeaf?.bind nextLeaf? = some l) ∧
        (l.whole.tips.getLast? ≠ some l → l.nextLeaf?.bind previousLeaf? = some l)) := by
  refine ⟨neighbourIn_eq .before l.tree l.above, neighbourIn_eq_none_iff .before l.tree l.above,
    neighbourIn_eq .after l.tree l.above, neighbourIn_eq_none_iff .after l.tree l.above, ?_⟩
  intro hsolid hleaf
  exact ⟨next_of_previous hsolid hleaf, previous_of_next hsolid hleaf⟩

def token (kind : String) (start : Nat) : Tree :=
  .node { kind := kind, start := start, stop := start + 1, named := false } []

/-- The operator of a sum with its right side in parentheses. -/
def operatorOfSum : Location :=
  ⟨token "+" 1, [{
    parent := { kind := "binary_expression", start := 0, stop := 5 }
    before := [token "a" 0]
    after := [.node { kind := parenthesized, start := 2, stop := 5 }
      [token "(" 2, token "b" 3, token ")" 4]] }]⟩

/-- The leaf behind the operator is the bracket, one level down, and leads back up to it. -/
theorem neighbours_end_forests_sum :
    operatorOfSum.whole.Solid ∧ operatorOfSum.tree.children = [] ∧
      operatorOfSum.nextLeaf?.map (·.kind) = some "(" ∧
      operatorOfSum.previousLeaf?.bind nextLeaf? = some operatorOfSum ∧
      operatorOfSum.nextLeaf?.bind previousLeaf? = some operatorOfSum := by
  have hsolid : operatorOfSum.whole.Solid := by decide +kernel
  have hback := (neighbours_end_forests operatorOfSum).2.2.2.2 hsolid rfl
  have hfirst : operatorOfSum.whole.tips.head?.map (·.kind) = some "a" := by decide +kernel
  have hlast : operatorOfSum.whole.tips.getLast?.map (·.kind) = some ")" := by decide +kernel
  have hnext : operatorOfSum.nextLeaf?.map (·.kind) = some "(" := by decide +kernel
  refine ⟨hsolid, rfl, hnext, hback.1 ?_, hback.2 ?_⟩
  · intro h
    rw [h] at hfirst
    revert hfirst
    decide +kernel
  · intro h
    rw [h] at hlast
    revert hlast
    decide +kernel

end Location

end TruncIdiom.Syntax
