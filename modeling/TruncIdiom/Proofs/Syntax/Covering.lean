import TruncIdiom.Proofs.Syntax.Layout
import TruncIdiom.Syntax.Covering

/-!
A node found again by its span.

In a nested tree the way down through children that cover a span is the way to every place with that
span: a child that stands in front of it ends too early to cover a byte of it. So the way down ends
at the place whose children leave a part of its span uncovered, whatever else has the same span
(`narrowed_eq_of_uncovered`).
-/

namespace TruncIdiom.Syntax

theorem NodeInfo.covers_iff {outer inner : NodeInfo} :
    outer.covers inner.start inner.stop = true ↔ inner.Inside outer := by
  rw [covers, Bool.and_eq_true, decide_eq_true_iff, decide_eq_true_iff]
  rfl

namespace Location

variable {l p c : Location}

/-- The first child that covers a place of some width is the one that the place lies below. -/
theorem find?_covers_eq (hp : p.whole.Nested) (hc : c ∈ p.children) (hl : l ∈ c.preorder)
    (hwide : l.info.start < l.info.stop) :
    p.children.find? (·.info.covers l.info.start l.info.stop) = some c := by
  have hnested : c.whole.Nested := by rwa [whole_of_mem_children hc]
  have hinside : l.info.Inside c.info := (nested_of_mem_preorder (nested_of_whole hnested) hl).2
  obtain ⟨front, back, hchildren⟩ := List.append_of_mem hc
  rw [List.find?_eq_some_iff_append]
  refine ⟨NodeInfo.covers_iff.mpr hinside, front, back, hchildren, ?_⟩
  intro d hd
  have hpairwise := pairwise_children hp
  rw [hchildren, List.pairwise_append] at hpairwise
  have hbefore : d.info.stop ≤ c.info.start := hpairwise.2.2 d hd c List.mem_cons_self
  rw [Bool.not_eq_eq_eq_not, Bool.not_true, Bool.eq_false_iff]
  intro hcovers
  obtain ⟨-, hstop⟩ := NodeInfo.covers_iff.mp hcovers
  obtain ⟨hstart, -⟩ := hinside
  omega

/-- The way down by a span leads from any place to the one below it that has the span and that no
child of its own covers. -/
theorem narrowedFrom_eq_of_uncovered {fuel : Nat} (hp : p.whole.Nested) (hl : l ∈ p.preorder)
    (hwide : l.info.start < l.info.stop)
    (huncovered : ∀ c ∈ l.children, ¬ l.info.Inside c.info) (hfuel : p.tree.size ≤ fuel) :
    narrowedFrom l.info.start l.info.stop fuel p = l := by
  induction fuel generalizing p with
  | zero =>
    have := p.tree.size_pos
    omega
  | succ fuel ih =>
    rw [narrowedFrom]
    rcases mem_preorder.mp hl with rfl | ⟨c, hc, hlc⟩
    · have hnone : l.children.find? (·.info.covers l.info.start l.info.stop) = none := by
        rw [List.find?_eq_none]
        intro c hc hcovers
        exact huncovered c hc (NodeInfo.covers_iff.mp hcovers)
      rw [hnone]
    · rw [find?_covers_eq hp hc hlc hwide]
      have hsize := size_lt_of_mem_children hc
      exact ih (by rwa [whole_of_mem_children hc]) hlc (by omega)

theorem narrowed_eq_of_uncovered (h : l.whole.Nested) (hwide : l.info.start < l.info.stop)
    (huncovered : ∀ c ∈ l.children, ¬ l.info.Inside c.info) :
    (Location.mk l.whole []).narrowed l.info.start l.info.stop = l :=
  narrowedFrom_eq_of_uncovered h (mem_preorder_wholeOf l.tree l.above) hwide huncovered
    (Nat.le_refl _)

theorem eq_of_inside {d : Location} (h : l.whole.Nested) (hc : c ∈ l.children)
    (hd : d ∈ l.children) (hwide : c.info.start < c.info.stop) (hinside : c.info.Inside d.info) :
    c = d := by
  by_cases heq : c = d
  · exact heq
  · obtain ⟨hstart, hstop⟩ := hinside
    rcases apart_of_mem_children h hc hd heq with hapart | hapart
    · omega
    · omega

theorem uncovered_of_two {d : Location} (h : l.whole.Nested) (hc : c ∈ l.children)
    (hd : d ∈ l.children) (hne : c ≠ d) (hcwide : c.info.start < c.info.stop)
    (hdwide : d.info.start < d.info.stop) : ∀ e ∈ l.children, ¬ l.info.Inside e.info := by
  intro e he hinside
  -- A child that covers the node covers both children, and so is each of them.
  have hce := eq_of_inside h hc he hcwide ((inside_of_mem_children h hc).trans hinside)
  have hde := eq_of_inside h hd he hdwide ((inside_of_mem_children h hd).trans hinside)
  exact hne (hce.trans hde.symm)

theorem enclosing?_self {has : NodeInfo → Bool} (h : has l.info = true) :
    l.enclosing? has = some l := by
  obtain ⟨t, above⟩ := l
  have hself : has t.info = true := h
  cases above with
  | nil => rw [enclosing?, enclosingIn, if_pos hself]
  | cons f above => rw [enclosing?, enclosingIn, if_pos hself]

end Location

end TruncIdiom.Syntax
