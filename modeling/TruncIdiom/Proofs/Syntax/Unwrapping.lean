import Mathlib.Data.Set.Function
import Mathlib.Logic.Relation
import TruncIdiom.Proofs.Syntax.Parentheses

/-!
Parentheses taken off and put on again.

`Holds` is one step down, from a pair of parentheses to the one node in it. Going down takes all the
steps that there are (`unwrapped_eq_iff`). Going up asks less: a pair that is no named node is gone up
through, yet no step leads down to it. So going up is undone by going down exactly for the nodes that
are `Reachable`, and between these and the outermost pairs the two are inverse
(`unwrapping_inverts_wrapping`).
-/

namespace TruncIdiom.Syntax

/-- Whether every pair of parentheses in a tree holds one named node that is no comment. -/
def Tree.PairsHoldOne (t : Tree) : Prop :=
  ∀ p ∈ t.places [], p.kind = parenthesized → p.content.length = 1

instance (t : Tree) : Decidable t.PairsHoldOne :=
  inferInstanceAs (Decidable (∀ p ∈ t.places [], p.kind = parenthesized → p.content.length = 1))

namespace Location

open Relation (ReflTransGen)

variable {l n p c x : Location}

/-! ## One pair of parentheses -/

/-- Whether a node counts as what stands in parentheses: it is named and no comment. -/
def IsContent (l : Location) : Prop := l.info.named = true ∧ l.kind ≠ comment

instance (l : Location) : Decidable l.IsContent :=
  inferInstanceAs (Decidable (l.info.named = true ∧ l.kind ≠ comment))

def InParentheses (l : Location) : Prop := ∃ p ∈ l.parent?, p.kind = parenthesized

/-- Whether a pair of parentheses has a node in it and no other content. -/
def Holds (p c : Location) : Prop := p.kind = parenthesized ∧ p.content = [c]

theorem mem_content_iff : c ∈ l.content ↔ c ∈ l.children ∧ c.IsContent := by
  rw [content, namedChildren, List.mem_filter, List.mem_filter, decide_eq_true_iff, and_assoc]
  rfl

theorem Holds.mem_children (h : Holds p c) : c ∈ p.children := mem_children_of_content h.2

theorem Holds.parent? (h : Holds p c) : c.parent? = some p := parent?_of_mem_children h.mem_children

theorem Holds.isContent (h : Holds p c) : c.IsContent :=
  (mem_content_iff.mp (h.2 ▸ List.mem_singleton_self c)).2

theorem Holds.inParentheses (h : Holds p c) : c.InParentheses := ⟨p, h.parent?, h.1⟩

theorem mem_children_of_parent? (h : n.parent? = some p) : n ∈ p.children := by
  obtain ⟨t, above⟩ := n
  cases above with
  | nil => cases h
  | cons f above =>
    obtain rfl := Option.some.inj h
    exact mem_children_of_frame f t above

theorem holds_of_parent? (hparent : n.parent? = some p) (hkind : p.kind = parenthesized)
    (hone : p.content.length = 1) (hn : n.IsContent) : Holds p n := by
  obtain ⟨c, hc⟩ := List.length_eq_one_iff.mp hone
  have hmem : n ∈ p.content := mem_content_iff.mpr ⟨mem_children_of_parent? hparent, hn⟩
  rw [hc, List.mem_singleton] at hmem
  exact ⟨hkind, hmem ▸ hc⟩

theorem exists_holds (hkind : p.kind = parenthesized) (hone : p.content.length = 1) :
    ∃ c, Holds p c := by
  obtain ⟨c, hc⟩ := List.length_eq_one_iff.mp hone
  exact ⟨c, hkind, hc⟩

/-! ## The way down -/

theorem unwrapFrom_of_holds (h : Holds p c) (fuel : Nat) :
    unwrapFrom (fuel + 1) p = unwrapFrom fuel c := by
  rw [unwrapFrom, if_pos h.1, h.2]

theorem unwrapFrom_of_not_holds (h : ∀ c, ¬ Holds x c) (fuel : Nat) : unwrapFrom fuel x = x := by
  cases fuel with
  | zero => rfl
  | succ fuel =>
    rw [unwrapFrom]
    split
    · next hkind =>
      split
      · next c hc => exact absurd ⟨hkind, hc⟩ (h c)
      · rfl
    · rfl

/-- Fuel for every node of a tree is enough to go down to where no step leads further. -/
theorem unwrapped_eq_of_holds (h : ReflTransGen Holds p x) (hend : ∀ c, ¬ Holds x c) :
    p.unwrapped = x := by
  have hfuel : ∀ fuel, p.tree.size ≤ fuel → unwrapFrom fuel p = x := by
    induction h using ReflTransGen.head_induction_on with
    | refl => exact fun fuel _ => unwrapFrom_of_not_holds hend fuel
    | head hstep _ ih =>
      intro fuel hfuel
      have hsize := size_lt_of_mem_children hstep.mem_children
      obtain ⟨fuel, rfl⟩ := Nat.exists_eq_add_one_of_ne_zero (show fuel ≠ 0 by omega)
      rw [unwrapFrom_of_holds hstep]
      exact ih fuel (by omega)
  exact hfuel p.tree.size (Nat.le_refl _)

theorem exists_holds_end (p : Location) : ∃ x, ReflTransGen Holds p x ∧ ∀ c, ¬ Holds x c := by
  induction hsize : p.tree.size using Nat.strongRecOn generalizing p with
  | ind size ih =>
    by_cases hstep : ∃ c, Holds p c
    · obtain ⟨c, hc⟩ := hstep
      have hlt := size_lt_of_mem_children hc.mem_children
      obtain ⟨x, hx, hend⟩ := ih c.tree.size (by omega) c rfl
      exact ⟨x, .head hc hx, hend⟩
    · exact ⟨p, .refl, not_exists.mp hstep⟩

theorem unwrapped_eq_iff :
    p.unwrapped = x ↔ ReflTransGen Holds p x ∧ ∀ c, ¬ Holds x c := by
  constructor
  · intro h
    obtain ⟨y, hy, hend⟩ := exists_holds_end p
    rw [← h, unwrapped_eq_of_holds hy hend]
    exact ⟨hy, hend⟩
  · intro h
    obtain ⟨hx, hend⟩ := h
    exact unwrapped_eq_of_holds hx hend

/-! ## The way up -/

/-- The pairs of parentheses around a tree, the innermost first. -/
def pairsIn (t : Tree) : List Frame → List Location
  | [] => []
  | f :: above =>
    if f.parent.kind = parenthesized then ⟨f.plug t, above⟩ :: pairsIn (f.plug t) above else []

/-- The pairs of parentheses directly around a node, the innermost first. -/
def pairs (l : Location) : List Location := pairsIn l.tree l.above

/-- Whether all pairs around a node but the outermost are named nodes. -/
def Reachable (l : Location) : Prop := ∀ q ∈ l.pairs.dropLast, q.info.named = true

instance (l : Location) : Decidable l.Reachable :=
  inferInstanceAs (Decidable (∀ q ∈ l.pairs.dropLast, q.info.named = true))

theorem pairs_of_parent? (hparent : l.parent? = some p) (hkind : p.kind = parenthesized) :
    l.pairs = p :: p.pairs := by
  obtain ⟨t, above⟩ := l
  cases above with
  | nil => cases hparent
  | cons f above =>
    obtain rfl := Option.some.inj hparent
    exact if_pos hkind

theorem outermost_of_parent? (hparent : l.parent? = some p) (hkind : p.kind = parenthesized) :
    l.outermost = p.outermost := by
  rw [outermost_of_mem_children (mem_children_of_parent? hparent), if_pos hkind]

theorem pairs_of_not_inParentheses (h : ¬ l.InParentheses) : l.pairs = [] := by
  obtain ⟨t, above⟩ := l
  cases above with
  | nil => rfl
  | cons f above => exact if_neg fun hkind => h ⟨_, rfl, hkind⟩

theorem outermost_of_not_inParentheses (h : ¬ l.InParentheses) : l.outermost = l := by
  obtain ⟨t, above⟩ := l
  cases above with
  | nil => rfl
  | cons f above => exact if_neg fun hkind => h ⟨_, rfl, hkind⟩

theorem pairs_ne_nil (h : l.InParentheses) : l.pairs ≠ [] := by
  obtain ⟨p, hparent, hkind⟩ := h
  rw [pairs_of_parent? hparent hkind]
  exact List.cons_ne_nil _ _

/-- What holds of a node in no parentheses, and of a node in a pair when it holds of the pair, holds
of every node. -/
theorem climbing {motive : Location → Prop} (top : ∀ l, ¬ l.InParentheses → motive l)
    (pair : ∀ l p, l.parent? = some p → p.kind = parenthesized → motive p → motive l) :
    ∀ l, motive l := by
  intro l
  obtain ⟨t, above⟩ := l
  induction above generalizing t with
  | nil =>
    apply top
    intro h
    obtain ⟨p, hparent, -⟩ := h
    cases hparent
  | cons f above ih =>
    by_cases h : (Location.mk t (f :: above)).InParentheses
    · obtain ⟨p, hparent, hkind⟩ := h
      obtain rfl := Option.some.inj hparent
      exact pair _ _ rfl hkind (ih (f.plug t))
    · exact top _ h

theorem not_inParentheses_outermost (l : Location) : ¬ l.outermost.InParentheses := by
  induction l using climbing with
  | top l h => rwa [outermost_of_not_inParentheses h]
  | pair l p hparent hkind ih => rwa [outermost_of_parent? hparent hkind]

theorem kind_outermost (h : l.InParentheses) : l.outermost.kind = parenthesized := by
  induction l using climbing with
  | top l hl => exact absurd h hl
  | pair l p hparent hkind ih =>
    rw [outermost_of_parent? hparent hkind]
    by_cases hp : p.InParentheses
    · exact ih hp
    · rwa [outermost_of_not_inParentheses hp]

/-! ## Up and down -/

theorem reachable_of_parent? (hparent : l.parent? = some p) (hkind : p.kind = parenthesized) :
    l.Reachable ↔ (p.InParentheses → p.info.named = true) ∧ p.Reachable := by
  rw [Reachable, pairs_of_parent? hparent hkind, Reachable]
  by_cases hp : p.InParentheses
  · rw [List.dropLast_cons_of_ne_nil (pairs_ne_nil hp), List.forall_mem_cons]
    simp only [hp, true_imp_iff]
  · simp [pairs_of_not_inParentheses hp, hp]

/-- The steps up from a reachable expression are steps down to it. -/
theorem holds_outermost (hone : n.whole.PairsHoldOne) (hn : n.InParentheses → n.IsContent)
    (hreachable : n.Reachable) : ReflTransGen Holds n.outermost n := by
  induction n using climbing with
  | top n h => rw [outermost_of_not_inParentheses h]
  | pair n p hparent hkind ih =>
    obtain ⟨hnamed, hp⟩ := (reachable_of_parent? hparent hkind).mp hreachable
    have hwhole : n.whole = p.whole := whole_of_mem_children (mem_children_of_parent? hparent)
    have hcomment : p.kind ≠ comment := by rw [hkind]; decide
    have hholds : Holds p n := holds_of_parent? hparent hkind
      (hone p (mem_places_iff.mpr hwhole.symm) hkind) (hn ⟨p, hparent, hkind⟩)
    rw [outermost_of_parent? hparent hkind]
    exact (ih (hwhole ▸ hone) (fun hin => ⟨hnamed hin, hcomment⟩) hp).tail hholds

/-- Steps down from an outermost pair lead to what is reachable only. -/
theorem reachable_of_holds (h : ReflTransGen Holds p n) (hp : ¬ p.InParentheses) :
    n.Reachable := by
  induction h with
  | refl =>
    rw [Reachable, pairs_of_not_inParentheses hp]
    exact fun q hq => absurd hq List.not_mem_nil
  | tail hfront hlast ih =>
    rw [reachable_of_parent? hlast.parent? hlast.1]
    refine ⟨fun hin => ?_, ih⟩
    -- A pair that stands in another one is not the first, so a step leads down to it as well.
    rcases hfront.cases_tail with rfl | ⟨q, -, hq⟩
    · exact absurd hin hp
    · exact hq.isContent.1

/-- Going down from a pair ends at content of a pair that is no pair itself. -/
theorem unwrapped_of_pair (hone : p.whole.PairsHoldOne) (hkind : p.kind = parenthesized) :
    p.unwrapped.IsContent ∧ p.unwrapped.kind ≠ parenthesized ∧ p.unwrapped.InParentheses := by
  obtain ⟨hsteps, hend⟩ := unwrapped_eq_iff.mp (Eq.refl p.unwrapped)
  have hwhole : p.unwrapped.whole = p.whole := whole_of_mem_preorder (unwrapped_mem_preorder p)
  have hbare : p.unwrapped.kind ≠ parenthesized := by
    intro h
    obtain ⟨c, hc⟩ := exists_holds h (hone _ (mem_places_iff.mpr hwhole) h)
    exact hend c hc
  rcases hsteps.cases_tail with heq | ⟨q, -, hq⟩
  · rw [heq] at hbare
    exact absurd hkind hbare
  · exact ⟨hq.isContent, hbare, hq.inParentheses⟩

/-- The way up is undone by the way down exactly where the way down leads. -/
theorem unwrapped_outermost_iff (hone : n.whole.PairsHoldOne) (hn : n.IsContent)
    (hbare : n.kind ≠ parenthesized) : n.outermost.unwrapped = n ↔ n.Reachable := by
  rw [unwrapped_eq_iff]
  constructor
  · intro h
    exact reachable_of_holds h.1 (not_inParentheses_outermost n)
  · intro hreachable
    exact ⟨holds_outermost hone (fun _ => hn) hreachable, fun c hc => hbare hc.1⟩

/-! ## A whole tree -/

/-- The expressions in parentheses of a tree to which the way down leads. -/
def wrappedExpressions (t : Tree) : Set Location :=
  {n | n ∈ t.places [] ∧ n.IsContent ∧ n.kind ≠ parenthesized ∧ n.InParentheses ∧ n.Reachable}

/-- The pairs of parentheses of a tree that stand in no other pair. -/
def outermostPairs (t : Tree) : Set Location :=
  {p | p ∈ t.places [] ∧ p.kind = parenthesized ∧ ¬ p.InParentheses}

theorem mapsTo_outermost (t : Tree) :
    Set.MapsTo outermost (wrappedExpressions t) (outermostPairs t) := by
  intro n hn
  obtain ⟨hplace, -, -, hin, -⟩ := hn
  refine ⟨?_, kind_outermost hin, not_inParentheses_outermost n⟩
  rw [mem_places_iff, whole_outermost, mem_places_iff.mp hplace]

theorem mapsTo_unwrapped {t : Tree} (hone : t.PairsHoldOne) :
    Set.MapsTo unwrapped (outermostPairs t) (wrappedExpressions t) := by
  intro p hp
  obtain ⟨hplace, hkind, hfree⟩ := hp
  obtain rfl := mem_places_iff.mp hplace
  obtain ⟨hcontent, hbare, hin⟩ := unwrapped_of_pair hone hkind
  have hsteps := (unwrapped_eq_iff.mp (Eq.refl p.unwrapped)).1
  refine ⟨?_, hcontent, hbare, hin, reachable_of_holds hsteps hfree⟩
  rw [mem_places_iff, whole_of_mem_preorder (unwrapped_mem_preorder p)]

/-- Where every pair is there for one node, going up and then down gives back exactly the reachable
expressions, and going down and then up gives back every outermost pair. -/
theorem unwrapping_inverts_wrapping (t : Tree) (hone : t.PairsHoldOne) :
    (∀ n ∈ t.places [], n.IsContent → n.kind ≠ parenthesized →
      (n.outermost.unwrapped = n ↔ n.Reachable)) ∧
    (∀ p ∈ t.places [], p.kind = parenthesized → ¬ p.InParentheses →
      p.unwrapped.outermost = p) ∧
    Set.InvOn unwrapped outermost (wrappedExpressions t) (outermostPairs t) ∧
    Set.BijOn outermost (wrappedExpressions t) (outermostPairs t) := by
  have hdown : ∀ n ∈ t.places [], n.IsContent → n.kind ≠ parenthesized →
      (n.outermost.unwrapped = n ↔ n.Reachable) := by
    intro n hplace hcontent hbare
    exact unwrapped_outermost_iff (mem_places_iff.mp hplace ▸ hone) hcontent hbare
  have hup : ∀ p : Location, ¬ p.InParentheses → p.unwrapped.outermost = p := by
    intro p hfree
    rw [outermost_unwrapped, outermost_of_not_inParentheses hfree]
  have hinverse : Set.InvOn unwrapped outermost (wrappedExpressions t) (outermostPairs t) := by
    constructor
    · intro n hn
      obtain ⟨hplace, hcontent, hbare, -, hreachable⟩ := hn
      exact (hdown n hplace hcontent hbare).mpr hreachable
    · intro p hp
      exact hup p hp.2.2
  exact ⟨hdown, fun p _ _ hfree => hup p hfree, hinverse,
    hinverse.bijOn (mapsTo_outermost t) (mapsTo_unwrapped hone)⟩

def bracket (kind : String) (start : Nat) : Tree :=
  .node { kind := kind, start := start, stop := start + 1, named := false } []

/-- The name in `((/**/a))`. -/
def nameInPairs : Location :=
  ⟨.node { kind := "identifier", start := 6, stop := 7 } [], [
    { parent := { kind := parenthesized, start := 1, stop := 8 }
      before := [.node { kind := comment, start := 2, stop := 6 } [], bracket "(" 1]
      after := [bracket ")" 7] },
    { parent := { kind := parenthesized, start := 0, stop := 9 }
      before := [bracket "(" 0]
      after := [bracket ")" 8] },
    { parent := { kind := "program", start := 0, stop := 9 }, before := [], after := [] }]⟩

/-- Two pairs and a comment are gone through both ways. -/
theorem unwrapping_inverts_wrapping_twoPairs :
    nameInPairs.whole.PairsHoldOne ∧ nameInPairs.outermost.info.start = 0 ∧
      nameInPairs.outermost.unwrapped = nameInPairs ∧
      nameInPairs.outermost.unwrapped.outermost = nameInPairs.outermost ∧
      Set.BijOn outermost (wrappedExpressions nameInPairs.whole)
        (outermostPairs nameInPairs.whole) := by
  have hone : nameInPairs.whole.PairsHoldOne := by decide +kernel
  have hplace : nameInPairs ∈ nameInPairs.whole.places [] := mem_places_iff.mpr rfl
  obtain ⟨hdown, hup, -, hbijective⟩ := unwrapping_inverts_wrapping nameInPairs.whole hone
  have hinner := (hdown nameInPairs hplace (by decide) (by decide)).mpr (by decide +kernel)
  refine ⟨hone, by decide +kernel, hinner, ?_, hbijective⟩
  refine hup nameInPairs.outermost ?_ (by decide +kernel) (not_inParentheses_outermost _)
  exact mem_places_iff.mpr (whole_outermost nameInPairs)

/-- The first name in `((a)b)`, in a pair that is no named node. -/
def nameInUnnamedPair : Location :=
  ⟨.node { kind := "identifier", start := 2, stop := 3 } [], [
    { parent := { kind := parenthesized, start := 1, stop := 4, named := false }
      before := [bracket "(" 1]
      after := [bracket ")" 3] },
    { parent := { kind := parenthesized, start := 0, stop := 6 }
      before := [bracket "(" 0]
      after := [.node { kind := "identifier", start := 4, stop := 5 } [], bracket ")" 5] },
    { parent := { kind := "program", start := 0, stop := 6 }, before := [], after := [] }]⟩

/-- Each of the two pairs holds one name, but the way down from the outer pair does not lead through
the inner one: it ends at the second name. -/
theorem unwrapped_outermost_ne_of_unnamed :
    nameInUnnamedPair.whole.PairsHoldOne ∧
      nameInUnnamedPair ∈ nameInUnnamedPair.whole.places [] ∧ nameInUnnamedPair.IsContent ∧
      nameInUnnamedPair.kind ≠ parenthesized ∧
      nameInUnnamedPair.outermost.unwrapped.info.start = 4 ∧
      nameInUnnamedPair.outermost.unwrapped ≠ nameInUnnamedPair := by
  have hplace : nameInUnnamedPair ∈ nameInUnnamedPair.whole.places [] := mem_places_iff.mpr rfl
  have hstart : nameInUnnamedPair.outermost.unwrapped.info.start = 4 := by decide +kernel
  refine ⟨by decide +kernel, hplace, by decide, by decide, hstart, ?_⟩
  intro heq
  rw [heq] at hstart
  exact absurd hstart (by decide)

end Location

end TruncIdiom.Syntax
