import TruncIdiom.Proofs.Edit.Replacement

/-!
Which edits of a batch take part, and what they make of the content.

`Scan` goes through the edits as a batch does, the latest first, and keeps those it leaves out. Each
property of a batch is read off it by one induction: the edits that take part lie in the content and
none of them overlap; one that is left out ends past the content or overlaps one that takes part and
starts no earlier (`exists_batch`). So a batch takes all of its edits exactly when they make a
script that ends within the content. Editing from the back is replacing all spans at once, as it is
for a script (`applyBatch_maximal`).
-/

namespace TruncIdiom

open Text Collection

variable {content : Bytes} {size offset : Nat} {last : Option Nat}
  {edits es applied taken left : List Edit} {e f : Edit}

/-! ## The order of a batch -/

theorem Edit.laterEq_span (a b : Edit) : a.span.laterEq b.span = b.spanLe a := by
  rw [Bool.eq_iff_iff, Edit.spanLe_iff]
  show (decide (b.start < a.start) ||
    (!decide (a.start < b.start) && !decide (a.stop < b.stop))) = true ↔ _
  simp only [Bool.or_eq_true, Bool.and_eq_true, Bool.not_eq_true', decide_eq_true_eq,
    decide_eq_false_iff_not]
  omega

/-- A batch goes backwards through the script order of the list turned round. -/
theorem chosenFrom_span (size : Nat) (edits : List Edit) :
    chosenFrom Edit.span size edits =
      takeFitting Edit.span size none (stableSort Edit.spanLe edits.reverse).reverse := by
  have hlater : (fun a b : Edit => a.span.laterEq b.span) = fun a b => b.spanLe a := by
    funext a b
    exact Edit.laterEq_span a b
  rw [chosenFrom, hlater, stableSort_flip Edit.spanLe_ranking]

/-! ## Going through a batch -/

/-- Edits gone through one after the other: those that are taken, and those left out because they
end past the content or past the start of the one taken last. -/
inductive Scan (size : Nat) : Option Nat → List Edit → List Edit → List Edit → Prop
  | done {last : Option Nat} : Scan size last [] [] []
  | leave {last : Option Nat} {e : Edit} {es taken left : List Edit}
      (reason : size < e.stop ∨ ∃ start ∈ last, start < e.stop)
      (rest : Scan size last es taken left) : Scan size last (e :: es) taken (e :: left)
  | take {last : Option Nat} {e : Edit} {es taken left : List Edit} (inside : e.stop ≤ size)
      (free : ∀ start ∈ last, e.stop ≤ start) (rest : Scan size (some e.start) es taken left) :
      Scan size last (e :: es) (e :: taken) left

theorem exists_scan (size : Nat) (last : Option Nat) (es : List Edit) :
    ∃ left, Scan size last es (takeFitting Edit.span size last es) left := by
  induction es generalizing last with
  | nil => exact ⟨[], .done⟩
  | cons e es ih =>
    have hreason : (decide (size < e.stop) || last.any (decide <| · < e.stop)) = true ↔
        size < e.stop ∨ ∃ start ∈ last, start < e.stop := by
      simp [Option.any_eq_true]
    simp only [takeFitting]
    split
    · next h =>
      obtain ⟨left, hrest⟩ := ih last
      exact ⟨e :: left, .leave (hreason.mp h) hrest⟩
    · next h =>
      obtain ⟨hinside, hfree⟩ := not_or.mp (mt hreason.mpr h)
      obtain ⟨left, hrest⟩ := ih (some e.start)
      refine ⟨left, .take (Nat.le_of_not_lt hinside) ?_ hrest⟩
      intro start hstart
      exact Nat.le_of_not_lt fun hlt => hfree ⟨start, hstart, hlt⟩

namespace Scan

theorem perm (h : Scan size last es taken left) : (taken ++ left).Perm es := by
  induction h with
  | done => exact List.Perm.refl _
  | leave _ _ ih => exact List.perm_middle.trans (ih.cons _)
  | take _ _ _ ih => exact ih.cons _

theorem sublist (h : Scan size last es taken left) : taken.Sublist es := by
  induction h with
  | done => exact List.Sublist.refl _
  | leave _ _ ih => exact ih.cons _
  | take _ _ _ ih => exact ih.cons_cons _

theorem stop_le_size (h : Scan size last es taken left) : ∀ e ∈ taken, e.stop ≤ size := by
  induction h with
  | done => exact List.forall_mem_nil _
  | leave _ _ ih => exact ih
  | take inside _ _ ih => exact List.forall_mem_cons.mpr ⟨inside, ih⟩

theorem stop_le_last (h : Scan size last es taken left) :
    ∀ e ∈ taken, ∀ start ∈ last, e.stop ≤ start := by
  induction h with
  | done => exact List.forall_mem_nil _
  | leave _ _ ih => exact ih
  | @take last e es taken left _ free _ ih =>
    refine List.forall_mem_cons.mpr ⟨free, ?_⟩
    intro f hf start hstart
    calc f.stop
      _ ≤ e.start := ih f hf e.start rfl
      _ ≤ e.stop := e.ordered
      _ ≤ start := free start hstart

theorem pairwise (h : Scan size last es taken left) :
    taken.Pairwise fun a b => b.stop ≤ a.start := by
  induction h with
  | done => exact .nil
  | leave _ _ ih => exact ih
  | take _ _ rest ih => exact .cons (fun f hf => rest.stop_le_last f hf _ rfl) ih

/-- Of edits in order, one that is left out in favour of another comes after it and ends past its
start. -/
theorem reason_of_left (h : Scan size last es taken left)
    (hsorted : es.Pairwise fun a b => b.spanLe a = true) :
    ∀ e ∈ left, size < e.stop ∨ (∃ start ∈ last, start < e.stop) ∨
      ∃ f ∈ taken, e.spanLe f = true ∧ f.start < e.stop := by
  induction h with
  | done => exact List.forall_mem_nil _
  | leave reason _ ih =>
    refine List.forall_mem_cons.mpr ⟨reason.imp_right .inl, ?_⟩
    exact ih (List.pairwise_cons.mp hsorted).2
  | @take last e es taken left _ _ rest ih =>
    obtain ⟨hfirst, hrest⟩ := List.pairwise_cons.mp hsorted
    intro g hg
    have hmem : g ∈ es := rest.perm.subset (List.mem_append_right _ hg)
    rcases ih hrest g hg with hpast | ⟨start, hstart, hlt⟩ | ⟨f, hf, hbefore, hlt⟩
    · exact .inl hpast
    · -- The one taken last is the edit that this step takes.
      obtain rfl := Option.some.inj hstart
      exact .inr (.inr ⟨e, List.mem_cons_self, hfirst g hmem, hlt⟩)
    · exact .inr (.inr ⟨f, List.mem_cons_of_mem _ hf, hbefore, hlt⟩)

end Scan

/-! ## Batches -/

theorem overlapAfter_zero_iff :
    overlapAfter 0 es = none ↔ es.Pairwise fun a b => a.stop ≤ b.start := by
  rw [overlapAfter_iff_pairwise]
  exact and_iff_right fun e _ => Nat.zero_le e.start

/-- How a batch divides its edits: those it applies, in source order, and those it leaves out. -/
structure Batch (content : Bytes) (edits applied left : List Edit) : Prop where
  shared : (applied ++ left).Perm edits
  inside : ∀ e ∈ applied, e.stop ≤ content.length
  ordered : applied.Pairwise fun a b => a.stop ≤ b.start
  blocked : ∀ e ∈ left,
    content.length < e.stop ∨ ∃ f ∈ applied, e.start ≤ f.start ∧ ¬ e.Apart f

def appliedTo (content : Bytes) (edits : List Edit) : List Edit :=
  (chosenFrom Edit.span content.length edits).reverse

theorem Edit.not_apart_of_lt (hle : e.spanLe f = true) (h : f.start < e.stop) :
    e.start ≤ f.start ∧ ¬ e.Apart f := by
  constructor
  · have := Edit.spanLe_iff.mp hle
    omega
  · intro hapart
    have := hapart.stop_le_start hle
    omega

theorem exists_batch (content : Bytes) (edits : List Edit) :
    ∃ left, Batch content edits (appliedTo content edits) left := by
  obtain ⟨left, hscan⟩ :=
    exists_scan content.length none (stableSort Edit.spanLe edits.reverse).reverse
  rw [← chosenFrom_span] at hscan
  have hsorted : (stableSort Edit.spanLe edits.reverse).reverse.Pairwise
      fun a b => b.spanLe a = true :=
    List.pairwise_reverse.mpr (pairwise_stableSort Edit.spanLe_ranking _)
  have hperm : (stableSort Edit.spanLe edits.reverse).reverse.Perm edits :=
    (List.reverse_perm _).trans ((stableSort_perm _).trans (List.reverse_perm _))
  refine ⟨left, ?_, ?_, ?_, ?_⟩
  · exact ((List.reverse_perm _).append_right left).trans (hscan.perm.trans hperm)
  · intro e he
    exact hscan.stop_le_size e (List.mem_reverse.mp he)
  · exact List.pairwise_reverse.mpr hscan.pairwise
  · intro e he
    rcases hscan.reason_of_left hsorted e he with hpast | ⟨start, hnone, -⟩ | ⟨f, hf, hle, hlt⟩
    · exact .inl hpast
    · cases hnone
    · exact .inr ⟨f, List.mem_reverse.mpr hf, Edit.not_apart_of_lt hle hlt⟩

namespace Batch

theorem disjoint (h : Batch content edits applied left) : overlapAfter 0 applied = none :=
  overlapAfter_zero_iff.mpr h.ordered

theorem apart (h : Batch content edits applied left) : applied.Pairwise Edit.Apart :=
  h.ordered.imp .inl

theorem mem_of_left (h : Batch content edits applied left) (he : e ∈ left) : e ∈ edits :=
  h.shared.subset (List.mem_append_right _ he)

theorem length_eq_iff (h : Batch content edits applied left) :
    applied.length = edits.length ↔ left = [] := by
  rw [← h.shared.length_eq, List.length_append, ← List.length_eq_zero_iff]
  omega

theorem left_eq_nil_iff (h : Batch content edits applied left) :
    left = [] ↔ edits.Pairwise Edit.Apart ∧ ∀ e ∈ edits, e.stop ≤ content.length := by
  constructor
  · rintro rfl
    have hperm : applied.Perm edits := by simpa using h.shared
    exact ⟨(hperm.pairwise_iff Edit.Apart.symm).mp h.apart,
      fun e he => h.inside e (hperm.mem_iff.mpr he)⟩
  · rintro ⟨hapart, hin⟩
    have hall : (applied ++ left).Pairwise Edit.Apart :=
      (h.shared.pairwise_iff Edit.Apart.symm).mpr hapart
    rw [List.eq_nil_iff_forall_not_mem]
    intro e he
    rcases h.blocked e he with hpast | ⟨f, hf, -, hoverlap⟩
    · have := hin e (h.mem_of_left he)
      omega
    · exact hoverlap ((List.pairwise_append.mp hall).2.2 f hf e he).symm

/-- An insertion within the content is never left out: it reaches across nothing. -/
theorem insertionsAt_left (h : Batch content edits applied left)
    (hoffset : offset ≤ content.length) : insertionsAt offset left = [] := by
  refine insertionsAt_eq_nil fun e he hstart hstop => ?_
  rcases h.blocked e he with hpast | ⟨f, -, hle, hoverlap⟩
  · omega
  · exact hoverlap (.inl (by omega))

theorem insertionsAt_perm (h : Batch content edits applied left)
    (hoffset : offset ≤ content.length) :
    (insertionsAt offset applied).Perm (insertionsAt offset edits) := by
  have hshared : (insertionsAt offset applied ++ insertionsAt offset left).Perm
      (insertionsAt offset edits) := by
    rw [insertionsAt, insertionsAt, ← List.filter_append]
    exact h.shared.filter _
  rwa [h.insertionsAt_left hoffset, List.append_nil] at hshared

end Batch

/-! ## What a batch makes of the content -/

/-- Edits in order that lie in the content, applied from the last to the first. -/
theorem splice_eq_replaceAll (hordered : es.Pairwise fun a b => a.stop ≤ b.start)
    (hin : ∀ e ∈ es, e.stop ≤ content.length) :
    splice content es.reverse = replaceAll content 0 es := by
  rw [splice, List.foldl_reverse]
  exact foldr_apply (overlapAfter_zero_iff.mpr hordered) (reach_le (Nat.zero_le _) hin)

theorem applyBatch_eq (content : Bytes) (edits : List Edit) :
    applyBatch content edits =
      (replaceAll content 0 (appliedTo content edits), (appliedTo content edits).length) := by
  obtain ⟨left, hbatch⟩ := exists_batch content edits
  have hsplice := splice_eq_replaceAll hbatch.ordered hbatch.inside
  rw [appliedTo, List.reverse_reverse] at hsplice
  rw [applyBatch, hsplice, appliedTo, List.length_reverse]

/-- At the span of an edit stands its text, between what the edits in front and behind make of the
content on either side. -/
theorem replaceAll_split {front back : List Edit}
    (h : (front ++ e :: back).Pairwise fun a b => a.stop ≤ b.start) :
    replaceAll content 0 (front ++ e :: back) =
      replaceAll (content.take e.start) 0 front ++ encode e.text ++
        replaceAll content e.stop back := by
  obtain ⟨-, hback, hfront⟩ := List.pairwise_append.mp h
  have hstart : overlapAfter e.start (e :: back) = none := by
    refine overlapAfter_iff_pairwise.mpr ⟨?_, hback⟩
    refine List.forall_mem_cons.mpr ⟨Nat.le_refl _, fun g hg => ?_⟩
    exact Nat.le_trans e.ordered ((List.pairwise_cons.mp hback).1 g hg)
  rw [replaceAll_front_append (Nat.zero_le _) (fun g hg => hfront g hg e List.mem_cons_self) hstart,
    replaceAll, between_self, List.nil_append, List.append_assoc]

theorem EditScript.accepted_within_iff :
    (∃ s, EditScript.ofEdits edits = .ok s ∧ s.stop ≤ size) ↔
      edits ≠ [] ∧ edits.Pairwise Edit.Apart ∧ ∀ e ∈ edits, e.stop ≤ size := by
  have hmem : ∀ {s : EditScript}, EditScript.ofEdits edits = .ok s → ∀ e, e ∈ s.edits ↔ e ∈ edits :=
    fun hs e => by rw [edits_of_ofEdits hs, mem_stableSort]
  constructor
  · rintro ⟨s, hs, hstop⟩
    have hne : edits ≠ [] := by
      rintro rfl
      cases hs
    rcases ofEdits_cases hne with ⟨-, start, stop, lastStop, hrefused⟩ | ⟨hapart, -⟩
    · rw [hs] at hrefused
      cases hrefused
    · refine ⟨hne, hapart, fun e he => ?_⟩
      exact Nat.le_trans (s.span_of_mem ((hmem hs e).mpr he)).2 hstop
  · rintro ⟨hne, hapart, hin⟩
    rcases ofEdits_cases hne with ⟨hoverlap, -⟩ | ⟨-, s, hs⟩
    · exact absurd hapart hoverlap
    · exact ⟨s, hs, s.stop_le fun e he => hin e ((hmem hs e).mp he)⟩

/-- A batch applies edits that lie in the content and do not overlap, and each of the others ends
past the content or overlaps one of them that starts no earlier. It applies them all, and there are
some, exactly when they make a script that ends within the content. The output is the content with
the text of each edit in the place of its span; at an offset stand all the texts that are inserted
there, in front of the text of a replacement that starts there. -/
theorem applyBatch_maximal (content : Bytes) (edits : List Edit) :
    ∃ applied left output, applyBatch content edits = (output, applied.length) ∧
      Batch content edits applied left ∧ applied.Pairwise Edit.Apart ∧
      (applied.length = edits.length ∧ edits ≠ [] ↔
        ∃ s, EditScript.ofEdits edits = .ok s ∧ s.stop ≤ content.length) ∧
      output = replaceAll content 0 applied ∧
      (∀ front e back, applied = front ++ e :: back →
        output = replaceAll (content.take e.start) 0 front ++ encode e.text ++
          replaceAll content e.stop back) ∧
      ∀ offset ≤ content.length,
        (insertionsAt offset applied).Perm (insertionsAt offset edits) ∧
        (insertionsAt offset applied ≠ [] → ∃ front back,
          applied = front ++ insertionsAt offset applied ++ back ∧
          output = replaceAll (content.take offset) 0 front ++
            ((insertionsAt offset applied).flatMap fun e => encode e.text) ++
            replaceAll content offset back ∧
          ∀ e ∈ applied, e.start = offset → offset < e.stop → ∃ rest, back = e :: rest) := by
  obtain ⟨left, hbatch⟩ := exists_batch content edits
  refine ⟨_, left, _, applyBatch_eq content edits, hbatch, hbatch.apart, ?_, rfl, ?_, ?_⟩
  · rw [EditScript.accepted_within_iff, hbatch.length_eq_iff, hbatch.left_eq_nil_iff, and_comm]
  · intro front e back hsplit
    have hordered := hbatch.ordered
    rw [hsplit] at hordered ⊢
    exact replaceAll_split hordered
  · intro offset hoffset
    refine ⟨hbatch.insertionsAt_perm hoffset, fun hsome => ?_⟩
    obtain ⟨front, back, hsplit⟩ :=
      exists_splitAt hbatch.disjoint (apart_of_insertion hbatch.disjoint hsome)
    exact ⟨front, back, hsplit.joined, hsplit.replaceAll_eq hbatch.disjoint,
      fun e => hsplit.eq_cons_of_mem hbatch.disjoint⟩

/-- The first overlaps the second, which starts later, and the third ends past the content. -/
example : applyBatch (encode "abcd") [⟨0, 3, "x", by decide⟩, ⟨2, 4, "y", by decide⟩,
    ⟨1, 9, "z", by decide⟩] = (encode "aby", 1) := by decide +kernel

end TruncIdiom
