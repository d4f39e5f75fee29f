import TruncIdiom.Edit.Script
import TruncIdiom.Proofs.Collection.StableSort
import TruncIdiom.Proofs.Text.Slice
import TruncIdiom.Proofs.Text.Utf8

/-!
What a script of edits does to a source.

Edits that do not overlap are in source order, so edits that their spans tell apart make one script
in whatever order they are given (`EditScript.ofEdits_of_perm`). Working from the last edit to the
first is replacing all spans at once (`EditScript.apply_eq_replaceAll`). Merging a script into one
edit loses nothing when the source between its edits is text (`EditScript.merged_apply`).
-/

namespace TruncIdiom

open Text Collection

/-! ## The order of edits -/

theorem Edit.spanLe_iff {a b : Edit} :
    a.spanLe b = true ↔ a.start < b.start ∨ a.start = b.start ∧ a.stop ≤ b.stop := by
  simp [Edit.spanLe]

theorem Edit.spanLe_ranking : Ranking Edit.spanLe := by
  constructor
  · intro a b
    rw [Edit.spanLe_iff, Edit.spanLe_iff]
    omega
  · intro a b c hab hbc
    rw [Edit.spanLe_iff] at *
    omega

/-! ## Edits that do not overlap -/

def reach (cursor : Nat) : List Edit → Nat
  | [] => cursor
  | e :: es => reach e.stop es

@[simp] theorem overlapAfter_nil (cursor : Nat) : overlapAfter cursor [] = none := rfl

@[simp] theorem overlapAfter_cons {cursor : Nat} {e : Edit} {es : List Edit} :
    overlapAfter cursor (e :: es) = none ↔ cursor ≤ e.start ∧ overlapAfter e.stop es = none := by
  simp only [overlapAfter]
  split
  · next h => simp only [reduceCtorEq, false_iff]; omega
  · next h => simp only [Nat.le_of_not_lt h, true_and]

theorem overlapAfter_append {cursor : Nat} {es fs : List Edit} :
    overlapAfter cursor (es ++ fs) = none ↔
      overlapAfter cursor es = none ∧ overlapAfter (reach cursor es) fs = none := by
  induction es generalizing cursor with
  | nil => simp [overlapAfter, reach]
  | cons e es ih => rw [List.cons_append, overlapAfter_cons, overlapAfter_cons, ih, and_assoc]; rfl

theorem le_start_of_overlapAfter {cursor : Nat} {es : List Edit}
    (h : overlapAfter cursor es = none) :
    ∀ e ∈ es, cursor ≤ e.start := by
  induction es generalizing cursor with
  | nil => simp
  | cons e es ih =>
    obtain ⟨hle, hes⟩ := overlapAfter_cons.mp h
    intro f hf
    rcases List.mem_cons.mp hf with rfl | hf
    · exact hle
    · have := ih hes f hf
      have := e.ordered
      omega

theorem stop_le_reach {cursor : Nat} {es : List Edit} (h : overlapAfter cursor es = none) :
    cursor ≤ reach cursor es ∧ ∀ e ∈ es, e.stop ≤ reach cursor es := by
  induction es generalizing cursor with
  | nil => simp [reach]
  | cons e es ih =>
    obtain ⟨hle, hes⟩ := overlapAfter_cons.mp h
    obtain ⟨hreach, hall⟩ := ih hes
    have := e.ordered
    refine ⟨by simp only [reach]; omega, ?_⟩
    intro f hf
    rcases List.mem_cons.mp hf with rfl | hf
    · exact hreach
    · exact hall f hf

theorem reach_le {bound cursor : Nat} {es : List Edit} (hcursor : cursor ≤ bound)
    (hes : ∀ e ∈ es, e.stop ≤ bound) : reach cursor es ≤ bound := by
  induction es generalizing cursor with
  | nil => exact hcursor
  | cons e es ih =>
    exact ih (hes e List.mem_cons_self) fun f hf => hes f (List.mem_cons_of_mem e hf)

theorem pairwise_spanLe {cursor : Nat} {es : List Edit} (h : overlapAfter cursor es = none) :
    es.Pairwise (Edit.spanLe · · = true) := by
  induction es generalizing cursor with
  | nil => exact List.Pairwise.nil
  | cons e es ih =>
    obtain ⟨-, hes⟩ := overlapAfter_cons.mp h
    refine List.pairwise_cons.mpr ⟨?_, ih hes⟩
    intro f hf
    have := le_start_of_overlapAfter hes f hf
    have := e.ordered
    have := f.ordered
    rw [Edit.spanLe_iff]
    omega

theorem foldl_max_stop {cursor : Nat} {es : List Edit} (h : overlapAfter cursor es = none) :
    es.foldl (fun stop e => max stop e.stop) cursor = reach cursor es := by
  induction es generalizing cursor with
  | nil => rfl
  | cons e es ih =>
    obtain ⟨hle, hes⟩ := overlapAfter_cons.mp h
    have := e.ordered
    rw [List.foldl_cons, Nat.max_eq_right (by omega), ih hes]
    rfl

/-! ## Building a script -/

theorem Edit.make_natCast {start stop : Nat} (h : start ≤ stop) (text : String) :
    Edit.make start stop text = .ok ⟨start, stop, text, h⟩ := by
  rw [Edit.make, dif_pos (by omega)]
  rfl

theorem EditScript.ofEdits_eq_ok {edits sorted : List Edit}
    (hsort : stableSort Edit.spanLe edits = sorted) (nonempty : sorted ≠ [])
    (disjoint : overlapAfter 0 sorted = none) :
    EditScript.ofEdits edits = .ok ⟨sorted, nonempty, disjoint⟩ := by
  subst hsort
  simp only [EditScript.ofEdits]
  rw [dif_neg nonempty]
  split
  · next e lastStop h => rw [disjoint] at h; cases h
  · rfl

theorem EditScript.edits_of_ofEdits {edits : List Edit} {s : EditScript}
    (h : EditScript.ofEdits edits = .ok s) : s.edits = stableSort Edit.spanLe edits := by
  simp only [EditScript.ofEdits] at h
  split at h
  · cases h
  · split at h
    · cases h
    · rw [← Except.ok.inj h]

def Edit.ToldBySpan (a b : Edit) : Prop := a.start = b.start → a.stop = b.stop → a = b

/-- Edits in any order are the script that they make in source order, when their spans tell them
apart. -/
theorem EditScript.ofEdits_of_perm {edits sorted : List Edit} (h : edits.Perm sorted)
    (nonempty : sorted ≠ []) (disjoint : overlapAfter 0 sorted = none)
    (told : sorted.Pairwise Edit.ToldBySpan) :
    EditScript.ofEdits edits = .ok ⟨sorted, nonempty, disjoint⟩ := by
  refine ofEdits_eq_ok ?_ nonempty disjoint
  have hperm : (stableSort Edit.spanLe edits).Perm sorted := (stableSort_perm edits).trans h
  have hself : ∀ a ∈ sorted, Edit.ToldBySpan a a := fun _ _ _ _ => rfl
  have hback : sorted.Pairwise (flip Edit.ToldBySpan) :=
    told.imp fun hab hstart hstop => (hab hstart.symm hstop.symm).symm
  -- Both lists are in order and hold the same edits, and edits that tie are the same.
  refine List.Perm.eq_of_pairwise ?_ (pairwise_stableSort Edit.spanLe_ranking edits)
    (pairwise_spanLe disjoint) hperm
  intro a b ha hb hab hba
  rw [Edit.spanLe_iff] at hab hba
  exact List.Pairwise.forall_of_forall_of_flip hself told hback (hperm.mem_iff.mp ha) hb
    (by omega) (by omega)

theorem EditScript.stop_eq_reach (s : EditScript) : s.stop = reach 0 s.edits :=
  foldl_max_stop s.disjoint

theorem reach_eq_getLast (cursor : Nat) {es : List Edit} (h : es ≠ []) :
    reach cursor es = (es.getLast h).stop := by
  induction es generalizing cursor with
  | nil => exact absurd rfl h
  | cons e es ih =>
    cases es with
    | nil => rfl
    | cons next rest =>
      rw [reach, ih e.stop (List.cons_ne_nil _ _), List.getLast_cons (List.cons_ne_nil _ _)]

theorem EditScript.stop_eq_getLast (s : EditScript) :
    s.stop = (s.edits.getLast s.nonempty).stop := by
  rw [s.stop_eq_reach, reach_eq_getLast]

/-! ## Applying a script -/

theorem Edit.apply_of_append {front back : Bytes} (e : Edit) (h : front.length = e.stop) :
    e.apply (front ++ back) = front.take e.start ++ encode e.text ++ back := by
  have := e.ordered
  rw [Edit.apply, replaceSpan, List.take_append_of_le_length (by omega), ← h, List.drop_left]

theorem replaceAll_from {source : Bytes} {cursor offset : Nat} {es : List Edit}
    (h : cursor ≤ offset) (hes : overlapAfter offset es = none) :
    replaceAll source cursor es = between source cursor offset ++ replaceAll source offset es := by
  cases es with
  | nil => exact (between_append_drop source h).symm
  | cons e es =>
    obtain ⟨hle, -⟩ := overlapAfter_cons.mp hes
    simp only [replaceAll]
    rw [← between_append_between source h hle]
    simp only [List.append_assoc]

/-- From the last edit to the first, as far as the cursor: the source in front of it is as it
was. -/
theorem foldr_apply {source : Bytes} {cursor : Nat} {es : List Edit}
    (h : overlapAfter cursor es = none) (hin : reach cursor es ≤ source.length) :
    es.foldr Edit.apply source = source.take cursor ++ replaceAll source cursor es := by
  induction es generalizing cursor with
  | nil => exact (List.take_append_drop cursor source).symm
  | cons e es ih =>
    obtain ⟨hle, hes⟩ := overlapAfter_cons.mp h
    -- The later edits leave the source up to the end of this one as it was.
    have hstop : e.stop ≤ source.length := Nat.le_trans (stop_le_reach hes).1 hin
    rw [List.foldr_cons, ih hes hin, Edit.apply_of_append e (by simp [hstop]), List.take_take,
      Nat.min_eq_left e.ordered, ← take_append_between source hle, replaceAll]
    simp only [List.append_assoc]

/-- A script replaces all its spans at once. -/
theorem EditScript.apply_eq_replaceAll (s : EditScript) {source : Bytes}
    (h : s.stop ≤ source.length) : s.apply source = .ok (replaceAll source 0 s.edits) := by
  have hin : reach 0 s.edits ≤ source.length := s.stop_eq_reach ▸ h
  rw [EditScript.apply, if_neg (by omega), foldr_apply s.disjoint hin]
  rfl

/-! ## Merging a script -/

/-- Whether the source between a cursor and edits is text wherever it is kept. -/
def TextBetween (source : Bytes) (cursor : Nat) : List Edit → Prop
  | [] => True
  | e :: es => encode (decode (between source cursor e.start)) = between source cursor e.start ∧
      TextBetween source e.stop es

theorem textBetween_from {source : Bytes} {cursor : Nat} {es : List Edit}
    (hcursor : Boundary source cursor) (h : overlapAfter cursor es = none)
    (hes : ∀ e ∈ es, Boundary source e.start ∧ Boundary source e.stop) :
    TextBetween source cursor es := by
  induction es generalizing cursor with
  | nil => trivial
  | cons e es ih =>
    obtain ⟨hle, hrest⟩ := overlapAfter_cons.mp h
    obtain ⟨hstart, hstop⟩ := hes e List.mem_cons_self
    exact ⟨encode_decode_between hcursor hstart hle,
      ih hstop hrest fun f hf => hes f (List.mem_cons_of_mem e hf)⟩

/-- What the text of merged edits stands for, with more edits behind them. -/
theorem replaceAll_append {source : Bytes} {cursor : Nat} {es : List Edit}
    (h : TextBetween source cursor es) (fs : List Edit) :
    replaceAll source cursor (es ++ fs) =
      encode (mergedText source cursor es) ++ replaceAll source (reach cursor es) fs := by
  induction es generalizing cursor with
  | nil => rfl
  | cons e es ih =>
    obtain ⟨hgap, hrest⟩ := h
    simp only [List.cons_append, replaceAll, mergedText, reach]
    rw [ih hrest, encode_append, encode_append, hgap]
    simp only [List.append_assoc]

theorem EditScript.edits_eq_cons (s : EditScript) :
    ∃ e es, s.edits = e :: es ∧ s.start = e.start := by
  obtain ⟨edits, nonempty, disjoint⟩ := s
  cases edits with
  | nil => exact absurd rfl nonempty
  | cons e es => exact ⟨e, es, rfl, rfl⟩

theorem EditScript.reach_start (s : EditScript) (cursor : Nat) : reach cursor s.edits = s.stop := by
  obtain ⟨e, es, hes, -⟩ := s.edits_eq_cons
  rw [s.stop_eq_reach, hes]
  rfl

theorem EditScript.disjoint_from (s : EditScript) {cursor : Nat} (h : cursor ≤ s.start) :
    overlapAfter cursor s.edits = none := by
  obtain ⟨e, es, hes, hstart⟩ := s.edits_eq_cons
  have hdisjoint := s.disjoint
  rw [hes, overlapAfter_cons] at hdisjoint ⊢
  exact ⟨hstart ▸ h, hdisjoint.2⟩

theorem EditScript.span_of_mem (s : EditScript) {e : Edit} (he : e ∈ s.edits) :
    s.start ≤ e.start ∧ e.stop ≤ s.stop := by
  constructor
  · exact le_start_of_overlapAfter (s.disjoint_from (Nat.le_refl _)) e he
  · rw [s.stop_eq_reach]
    exact (stop_le_reach s.disjoint).2 e he

theorem EditScript.stop_le (s : EditScript) {bound : Nat} (h : ∀ e ∈ s.edits, e.stop ≤ bound) :
    s.stop ≤ bound := by
  rw [s.stop_eq_reach]
  exact reach_le (Nat.zero_le bound) h

theorem EditScript.textBetween_of_boundary (s : EditScript) {source : Bytes}
    (h : ∀ e ∈ s.edits, Boundary source e.start ∧ Boundary source e.stop) :
    TextBetween source s.start s.edits := by
  obtain ⟨e, es, hes, hstart⟩ := s.edits_eq_cons
  have hfirst := (h e (hes ▸ List.mem_cons_self)).1
  exact textBetween_from (hstart ▸ hfirst) (s.disjoint_from (Nat.le_refl _)) h

/-- A script in front of more edits: the source up to it, its merged text, and the rest. -/
theorem EditScript.replaceAll_edits_append (s : EditScript) {source : Bytes} (cursor : Nat)
    (h : TextBetween source s.start s.edits) (fs : List Edit) :
    replaceAll source cursor (s.edits ++ fs) =
      between source cursor s.start ++ encode (s.merged source).text ++
        replaceAll source s.stop fs := by
  have hfrom := replaceAll_append h fs
  rw [s.reach_start] at hfrom
  obtain ⟨e, es, hes, hstart⟩ := s.edits_eq_cons
  rw [List.append_assoc, EditScript.merged, ← hfrom, hes, hstart]
  simp only [List.cons_append, replaceAll, between_self, List.nil_append, List.append_assoc]

theorem Edit.record_apply (e : Edit) (source : Bytes) : e.record.apply source = e.apply source := by
  simp only [SpanEdit.apply, Edit.record, sliceTo_natCast, sliceFrom_natCast, Edit.apply,
    replaceSpan]

/-- The one edit of a merged script does what the script does. -/
theorem EditScript.merged_apply (s : EditScript) {source : Bytes}
    (h : TextBetween source s.start s.edits) :
    (s.merged source).apply source = replaceAll source 0 s.edits := by
  have hall := s.replaceAll_edits_append 0 h []
  rw [List.append_nil] at hall
  rw [hall, between_zero]
  rfl

end TruncIdiom
