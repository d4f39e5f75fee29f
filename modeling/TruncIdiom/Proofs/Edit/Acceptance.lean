import TruncIdiom.Edit.Batch
import TruncIdiom.Proofs.Edit.Script

/-!
Which edits make a script.

The edits are sorted and only neighbours are compared, yet what is decided is a law on all pairs: a
script is refused exactly when two of its edits overlap (`EditScript.accepted_iff_apart`). An
insertion overlaps what reaches across it, and neither what starts or ends where it stands nor
another insertion there. The order in which edits are given shows only among those with one span.
-/

namespace TruncIdiom

open Collection

def Edit.Apart (a b : Edit) : Prop := a.stop ≤ b.start ∨ b.stop ≤ a.start

instance (a b : Edit) : Decidable (a.Apart b) := inferInstanceAs (Decidable (_ ∨ _))

theorem Edit.Apart.symm {a b : Edit} (h : a.Apart b) : b.Apart a := Or.symm h

instance : Std.Symm Edit.Apart := ⟨fun _ _ => Edit.Apart.symm⟩

/-! ## Neighbours and pairs -/

theorem overlapAfter_iff_pairwise {cursor : Nat} {es : List Edit} :
    overlapAfter cursor es = none ↔
      (∀ e ∈ es, cursor ≤ e.start) ∧ es.Pairwise fun a b => a.stop ≤ b.start := by
  induction es generalizing cursor with
  | nil => simp
  | cons e es ih =>
    have hordered := e.ordered
    rw [overlapAfter_cons, ih, List.pairwise_cons, List.forall_mem_cons]
    constructor
    · rintro ⟨hcursor, hstop, hes⟩
      exact ⟨⟨hcursor, fun f hf => by have := hstop f hf; omega⟩, hstop, hes⟩
    · rintro ⟨⟨hcursor, -⟩, hstop, hes⟩
      exact ⟨hcursor, hstop, hes⟩

/-- Of two edits in order that are apart the first ends before the second starts: were it the other
way round, both would be insertions at one offset. -/
theorem Edit.Apart.stop_le_start {a b : Edit} (h : a.Apart b) (hle : a.spanLe b = true) :
    a.stop ≤ b.start := by
  have ha := a.ordered
  have hb := b.ordered
  rw [Edit.spanLe_iff] at hle
  rcases h with h | h <;> omega

theorem pairwise_apart_iff {es : List Edit} (h : es.Pairwise (Edit.spanLe · · = true)) :
    es.Pairwise Edit.Apart ↔ es.Pairwise fun a b => a.stop ≤ b.start := by
  constructor
  · intro hapart
    exact hapart.imp₂ (fun _ _ hab hle => hab.stop_le_start hle) h
  · exact List.Pairwise.imp .inl

theorem overlapAfter_stableSort_iff (edits : List Edit) :
    overlapAfter 0 (stableSort Edit.spanLe edits) = none ↔ edits.Pairwise Edit.Apart := by
  have hsorted := pairwise_stableSort Edit.spanLe_ranking edits
  have hperm : (stableSort Edit.spanLe edits).Perm edits := stableSort_perm edits
  calc overlapAfter 0 (stableSort Edit.spanLe edits) = none
    _ ↔ (stableSort Edit.spanLe edits).Pairwise fun a b => a.stop ≤ b.start := by
      rw [overlapAfter_iff_pairwise]
      exact and_iff_right fun e _ => Nat.zero_le e.start
    _ ↔ (stableSort Edit.spanLe edits).Pairwise Edit.Apart := (pairwise_apart_iff hsorted).symm
    _ ↔ edits.Pairwise Edit.Apart := hperm.pairwise_iff Edit.Apart.symm

/-! ## What becomes of a list of edits -/

theorem EditScript.ofEdits_cases {edits : List Edit} (h : edits ≠ []) :
    (¬ edits.Pairwise Edit.Apart ∧ ∃ start stop lastStop,
        EditScript.ofEdits edits = .error (.overlap start stop lastStop)) ∨
      (edits.Pairwise Edit.Apart ∧ ∃ s, EditScript.ofEdits edits = .ok s) := by
  have hne : stableSort Edit.spanLe edits ≠ [] := by
    intro hnil
    exact h ((hnil ▸ stableSort_perm edits).symm.eq_nil)
  rw [← overlapAfter_stableSort_iff]
  cases hoverlap : overlapAfter 0 (stableSort Edit.spanLe edits) with
  | none => exact .inr ⟨rfl, _, EditScript.ofEdits_eq_ok rfl hne hoverlap⟩
  | some found =>
    obtain ⟨e, lastStop⟩ := found
    refine .inl ⟨nofun, e.start, e.stop, lastStop, ?_⟩
    simp only [EditScript.ofEdits]
    rw [dif_neg hne]
    split
    · next e' lastStop' hfound =>
      obtain ⟨rfl, rfl⟩ := Prod.mk.inj (Option.some.inj (hoverlap.symm.trans hfound))
      rfl
    · next hnone => rw [hoverlap] at hnone; cases hnone

theorem Edit.tied_spanLe_iff {a b : Edit} : tied Edit.spanLe a b = true ↔ b.span = a.span := by
  rw [tied, Bool.and_eq_true, Edit.spanLe_iff, Edit.spanLe_iff, Edit.span, Edit.span,
    Span.mk.injEq]
  omega

theorem EditScript.ofEdits_congr {edits edits' : List Edit}
    (h : ∀ span, edits'.filter (·.span = span) = edits.filter (·.span = span)) :
    EditScript.ofEdits edits' = EditScript.ofEdits edits := by
  have hsort : stableSort Edit.spanLe edits' = stableSort Edit.spanLe edits := by
    apply stableSort_congr Edit.spanLe_ranking
    intro a
    have htied : tied Edit.spanLe a = fun e => decide (e.span = a.span) := by
      funext e
      rw [Bool.eq_iff_iff, Edit.tied_spanLe_iff, decide_eq_true_eq]
    rw [htied, h a.span]
  unfold EditScript.ofEdits
  generalize stableSort Edit.spanLe edits' = sorted at hsort ⊢
  subst hsort
  rfl

/-- Edits are refused as overlapping exactly when two of them, at different places of the list,
overlap. Otherwise they make a script that holds them sorted by their spans, edits with one span as
they stood, each of them ending before the next starts, and the script ends with the last of them.
Lists that have the edits of each span in the same order come to the same. -/
theorem EditScript.accepted_iff_apart {edits : List Edit} (h : edits ≠ []) :
    ((∃ start stop lastStop,
        EditScript.ofEdits edits = .error (.overlap start stop lastStop)) ↔
      ¬ edits.Pairwise Edit.Apart) ∧
    (edits.Pairwise Edit.Apart → ∃ s, EditScript.ofEdits edits = .ok s ∧
      StablySorted Edit.spanLe edits s.edits ∧
      s.edits.Pairwise (fun a b => a.stop ≤ b.start) ∧
      s.stop = (s.edits.getLast s.nonempty).stop) ∧
    ∀ edits' : List Edit,
      (∀ span, edits'.filter (·.span = span) = edits.filter (·.span = span)) →
        EditScript.ofEdits edits' = EditScript.ofEdits edits := by
  refine ⟨?_, ?_, fun edits' => EditScript.ofEdits_congr⟩
  · rcases EditScript.ofEdits_cases h with ⟨hoverlap, hrefused⟩ | ⟨hapart, s, hs⟩
    · exact iff_of_true hrefused hoverlap
    · refine iff_of_false ?_ (not_not_intro hapart)
      rintro ⟨start, stop, lastStop, hrefused⟩
      rw [hs] at hrefused
      cases hrefused
  · intro hapart
    rcases EditScript.ofEdits_cases h with ⟨hoverlap, -⟩ | ⟨-, s, hs⟩
    · exact absurd hapart hoverlap
    · refine ⟨s, hs, ?_, (overlapAfter_iff_pairwise.mp s.disjoint).2, s.stop_eq_getLast⟩
      rw [EditScript.edits_of_ofEdits hs]
      exact stablySorted_stableSort Edit.spanLe_ranking edits

/-- Insertions before, between and behind two replacements that touch, and in no order. -/
def crowded : List Edit :=
  [⟨5, 9, "b", by decide⟩, ⟨5, 5, "(", by decide⟩, ⟨9, 9, ")", by decide⟩, ⟨0, 5, "a", by decide⟩,
    ⟨5, 5, "!", by decide⟩]

/-- None of them overlap, and one more insertion, inside a replacement, overlaps it. -/
theorem accepted_iff_apart_crowded :
    crowded ≠ [] ∧
      (∃ s, EditScript.ofEdits crowded = .ok s ∧ StablySorted Edit.spanLe crowded s.edits) ∧
      ∃ start stop lastStop, EditScript.ofEdits (⟨6, 6, "?", by decide⟩ :: crowded) =
        .error (.overlap start stop lastStop) := by
  have hne : crowded ≠ [] := List.cons_ne_nil _ _
  obtain ⟨-, haccepted, -⟩ := EditScript.accepted_iff_apart hne
  obtain ⟨s, hs, hsorted, -⟩ := haccepted (by decide)
  refine ⟨hne, ⟨s, hs, hsorted⟩, ?_⟩
  exact (EditScript.accepted_iff_apart (List.cons_ne_nil _ _)).1.mpr (by decide)

end TruncIdiom
