import TruncIdiom.Proofs.Syntax.Location
import TruncIdiom.Syntax.Parentheses

/-!
Trees laid out over their source.

In a `Nested` tree the children of a node lie inside it and follow one another without an overlap.
So do all places: what is below a location lies inside it, what is around it holds it, two children
of one node are apart, and the preorder is an order by start.
-/

namespace TruncIdiom.Syntax

mutual

/-- Whether the children of every node lie inside it, one after the other. -/
def Tree.Nested : Tree → Prop
  | .node info children => Tree.Follow info.start info.stop children

/-- Whether trees follow one another from one offset up to another, each of them nested. -/
def Tree.Follow (start stop : Nat) : List Tree → Prop
  | [] => start ≤ stop
  | t :: ts => start ≤ t.info.start ∧ t.Nested ∧ Tree.Follow t.info.stop stop ts

end

mutual

def Tree.decideNested : (t : Tree) → Decidable t.Nested
  | .node info children => Tree.decideFollow info.start info.stop children

def Tree.decideFollow (start stop : Nat) : (ts : List Tree) → Decidable (Tree.Follow start stop ts)
  | [] => inferInstanceAs (Decidable (start ≤ stop))
  | t :: ts =>
    have := t.decideNested
    have := Tree.decideFollow t.info.stop stop ts
    inferInstanceAs (Decidable (start ≤ t.info.start ∧ t.Nested ∧ Tree.Follow t.info.stop stop ts))

end

instance (t : Tree) : Decidable t.Nested := t.decideNested

def NodeInfo.Inside (inner outer : NodeInfo) : Prop :=
  outer.start ≤ inner.start ∧ inner.stop ≤ outer.stop

theorem NodeInfo.Inside.refl (info : NodeInfo) : info.Inside info :=
  ⟨Nat.le_refl _, Nat.le_refl _⟩

theorem NodeInfo.Inside.trans {a b c : NodeInfo} (h : a.Inside b) (h' : b.Inside c) : a.Inside c :=
  ⟨Nat.le_trans h'.1 h.1, Nat.le_trans h.2 h'.2⟩

/-! ## Trees in a row -/

/-- A nested tree does not end before it starts; nor do trees that follow one another. -/
theorem Tree.Nested.start_le_stop {t : Tree} (h : t.Nested) : t.info.start ≤ t.info.stop := by
  induction t using Tree.induction with
  | node info children ih =>
    -- The row of children is gone through from any start on, with the rest of them left.
    have hrow : ∀ (ts : List Tree) (start : Nat), (∀ t ∈ ts, t ∈ children) →
        Follow start info.stop ts → start ≤ info.stop := by
      intro ts
      induction ts with
      | nil => exact fun _ _ h => h
      | cons t ts ihts =>
        intro start hsub hfollow
        obtain ⟨hstart, hnested, hrest⟩ := hfollow
        have hself := ih t (hsub t List.mem_cons_self) hnested
        have hafter := ihts t.info.stop (fun u hu => hsub u (List.mem_cons_of_mem t hu)) hrest
        omega
    exact hrow children info.start (fun _ ht => ht) h

theorem Tree.Follow.start_le_stop {start stop : Nat} {ts : List Tree}
    (h : Follow start stop ts) : start ≤ stop := by
  induction ts generalizing start with
  | nil => exact h
  | cons t ts ih =>
    obtain ⟨hstart, hnested, hrest⟩ := h
    have := hnested.start_le_stop
    have := ih hrest
    omega

theorem Tree.Follow.append {start stop : Nat} {front back : List Tree}
    (h : Follow start stop (front ++ back)) :
    ∃ middle, Follow start middle front ∧ Follow middle stop back := by
  induction front generalizing start with
  | nil => exact ⟨start, Nat.le_refl start, h⟩
  | cons t front ih =>
    obtain ⟨hstart, hnested, hrest⟩ := h
    obtain ⟨middle, hfront, hback⟩ := ih hrest
    exact ⟨middle, ⟨hstart, hnested, hfront⟩, hback⟩

theorem Tree.Follow.of_mem {start stop : Nat} {ts : List Tree} {t : Tree}
    (h : Follow start stop ts) (ht : t ∈ ts) :
    t.Nested ∧ start ≤ t.info.start ∧ t.info.stop ≤ stop := by
  obtain ⟨front, back, rfl⟩ := List.append_of_mem ht
  obtain ⟨middle, hfront, hstart, hnested, hback⟩ := h.append
  have := hfront.start_le_stop
  exact ⟨hnested, by omega, hback.start_le_stop⟩

theorem Tree.Nested.of_mem_children {t u : Tree} (h : t.Nested) (hu : u ∈ t.children) :
    u.Nested ∧ u.info.Inside t.info := by
  cases t
  exact Follow.of_mem h hu

/-- In a nested whole the tree at any place is nested, and lies inside the whole. -/
theorem nested_of_wholeOf {t : Tree} {above : List Frame} (h : (wholeOf t above).Nested) :
    t.Nested ∧ t.info.Inside (wholeOf t above).info := by
  induction above generalizing t with
  | nil => exact ⟨h, .refl _⟩
  | cons f above ih =>
    -- Seen from the next frame on, the place is that of the tree plugged into this one.
    obtain ⟨hplug, hinside⟩ := ih h
    have hmem : t ∈ (f.plug t).children :=
      List.mem_append_right f.before.reverse List.mem_cons_self
    obtain ⟨hnested, hself⟩ := hplug.of_mem_children hmem
    exact ⟨hnested, hself.trans hinside⟩

namespace Location

variable {l c : Location}

theorem nested_of_whole (h : l.whole.Nested) : l.tree.Nested := (nested_of_wholeOf h).1

theorem start_le_stop (h : l.whole.Nested) : l.info.start ≤ l.info.stop :=
  (nested_of_whole h).start_le_stop

theorem inside_of_mem_children (h : l.whole.Nested) (hc : c ∈ l.children) :
    c.info.Inside l.info :=
  ((nested_of_whole h).of_mem_children (tree_mem_of_mem_children hc)).2

/-! ## Children apart -/

theorem pairwise_siblingsFrom {parent : NodeInfo} {above : List Frame} {before ts : List Tree}
    {start stop : Nat} (h : Tree.Follow start stop ts) :
    (siblingsFrom parent above before ts).Pairwise fun a b => a.info.stop ≤ b.info.start := by
  induction ts generalizing before start with
  | nil => exact List.Pairwise.nil
  | cons t ts ih =>
    obtain ⟨-, -, hrest⟩ := h
    refine List.pairwise_cons.mpr ⟨?_, ih hrest⟩
    intro b hb
    obtain ⟨front, after, rfl, -⟩ := mem_siblingsFrom.mp hb
    exact (hrest.of_mem (List.mem_append_right front List.mem_cons_self)).2.1

theorem pairwise_children (h : l.whole.Nested) :
    l.children.Pairwise fun a b => a.info.stop ≤ b.info.start := by
  have hnested := nested_of_whole h
  obtain ⟨⟨info, children⟩, above⟩ := l
  exact pairwise_siblingsFrom hnested

theorem apart_of_mem_children {d : Location} (h : l.whole.Nested) (hc : c ∈ l.children)
    (hd : d ∈ l.children) (hne : c ≠ d) :
    c.info.stop ≤ d.info.start ∨ d.info.stop ≤ c.info.start := by
  obtain ⟨front, back, hchildren⟩ := List.append_of_mem hc
  have hpairwise := pairwise_children h
  rw [hchildren, List.pairwise_append] at hpairwise
  obtain ⟨-, hback, hfront⟩ := hpairwise
  rw [hchildren] at hd
  rcases List.mem_append.mp hd with hd | hd
  · right
    exact hfront d hd c List.mem_cons_self
  · left
    rcases List.mem_cons.mp hd with rfl | hd
    · exact absurd rfl hne
    · exact (List.pairwise_cons.mp hback).1 d hd

/-! ## The preorder -/

theorem nested_of_mem_preorder {p : Location} (h : l.tree.Nested) (hp : p ∈ l.preorder) :
    p.tree.Nested ∧ p.info.Inside l.info := by
  obtain ⟨t, above⟩ := l
  induction t using Tree.induction generalizing above with
  | node info children ih =>
    rcases mem_preorder.mp hp with rfl | ⟨c, hc, hp⟩
    · exact ⟨h, .refl _⟩
    · have hmem := tree_mem_of_mem_children hc
      obtain ⟨hnested, hinside⟩ := h.of_mem_children hmem
      obtain ⟨hp, hpinside⟩ := ih c.tree hmem c.above hnested hp
      exact ⟨hp, hpinside.trans hinside⟩

theorem pairwise_placesFrom {parent : NodeInfo} {above : List Frame} {before ts : List Tree}
    {start stop : Nat} (h : Tree.Follow start stop ts)
    (hts : ∀ t ∈ ts, ∀ frames, (t.places frames).Pairwise fun a b => a.info.start ≤ b.info.start) :
    (Tree.placesFrom parent above before ts).Pairwise fun a b => a.info.start ≤ b.info.start := by
  induction ts generalizing before start with
  | nil => exact List.Pairwise.nil
  | cons t ts ih =>
    obtain ⟨-, hnested, hrest⟩ := h
    rw [Tree.placesFrom, List.pairwise_append]
    refine ⟨hts t List.mem_cons_self _, ih hrest fun u hu => hts u (List.mem_cons_of_mem t hu), ?_⟩
    -- A place in the first tree starts before that tree ends, and all others start after it.
    intro a ha b hb
    obtain ⟨c, hc, hbc⟩ := mem_placesFrom.mp hb
    obtain ⟨front, after, hsplit, -⟩ := mem_siblingsFrom.mp hc
    obtain ⟨hcnested, hcstart, -⟩ :=
      hrest.of_mem (hsplit ▸ List.mem_append_right front List.mem_cons_self)
    obtain ⟨hanested, hainside⟩ := nested_of_mem_preorder (l := ⟨t, _⟩) hnested ha
    calc a.info.start
      _ ≤ a.info.stop := hanested.start_le_stop
      _ ≤ t.info.stop := hainside.2
      _ ≤ c.info.start := hcstart
      _ ≤ b.info.start := (nested_of_mem_preorder hcnested hbc).2.1

/-- The preorder of a nested tree goes forward in the source. -/
theorem pairwise_preorder (h : l.tree.Nested) :
    l.preorder.Pairwise fun a b => a.info.start ≤ b.info.start := by
  obtain ⟨t, above⟩ := l
  induction t using Tree.induction generalizing above with
  | node info children ih =>
    rw [preorder, Tree.places, List.pairwise_cons]
    constructor
    · intro b hb
      have hmem : b ∈ (Location.mk (.node info children) above).preorder := by
        rw [preorder, Tree.places]
        exact List.mem_cons_of_mem _ hb
      exact (nested_of_mem_preorder h hmem).2.1
    · refine pairwise_placesFrom h fun t ht frames => ?_
      exact ih t ht frames (h.of_mem_children ht).1

/-! ## Parentheses -/

theorem whole_outermost (l : Location) : l.outermost.whole = l.whole := by
  obtain ⟨t, above⟩ := l
  show (outermostIn t above).whole = wholeOf t above
  induction above generalizing t with
  | nil => rfl
  | cons f above ih =>
    rw [outermostIn]
    split
    · rw [ih, wholeOf]
    · rfl

theorem inside_outermost (h : l.whole.Nested) : l.info.Inside l.outermost.info := by
  obtain ⟨t, above⟩ := l
  show t.info.Inside (outermostIn t above).info
  induction above generalizing t with
  | nil => exact .refl _
  | cons f above ih =>
    rw [outermostIn]
    split
    · have hplug : (f.plug t).Nested := (nested_of_wholeOf (t := f.plug t) h).1
      have hmem : t ∈ (f.plug t).children :=
        List.mem_append_right f.before.reverse List.mem_cons_self
      exact (hplug.of_mem_children hmem).2.trans (ih (f.plug t) h)
    · exact .refl _

theorem mem_children_of_content {inner : Location} (h : l.content = [inner]) :
    inner ∈ l.children := by
  have hmem : inner ∈ l.content := h ▸ List.mem_singleton_self inner
  exact (List.mem_filter.mp (List.mem_filter.mp hmem).1).1

theorem unwrapFrom_mem_preorder (fuel : Nat) (l : Location) : unwrapFrom fuel l ∈ l.preorder := by
  induction fuel generalizing l with
  | zero => exact mem_preorder.mpr (.inl rfl)
  | succ fuel ih =>
    rw [unwrapFrom]
    split
    · split
      · next inner hcontent =>
        exact mem_preorder.mpr (.inr ⟨inner, mem_children_of_content hcontent, ih inner⟩)
      · exact mem_preorder.mpr (.inl rfl)
    · exact mem_preorder.mpr (.inl rfl)

theorem unwrapped_mem_preorder (l : Location) : l.unwrapped ∈ l.preorder :=
  unwrapFrom_mem_preorder _ l

end Location

end TruncIdiom.Syntax
