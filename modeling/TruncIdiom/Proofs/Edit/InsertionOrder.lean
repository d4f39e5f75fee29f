import TruncIdiom.Proofs.Edit.Batch

/-!
The order of insertions at one offset.

A script and a batch that takes all of its edits replace the same spans, but a batch goes backwards
through insertions at one offset that it has not turned round: it does what the script of the list
turned round does. Between two orders of edits only the texts inserted at each offset can differ
(`replaceAll_eq_iff_of_perm`), so batch and script agree exactly when these texts read the same in
either order (`applyBatch_agrees_iff`).
-/

namespace TruncIdiom

open Text Collection

variable {source content : Bytes} {cursor offset other : Nat} {edits es es' back back' : List Edit}
  {e : Edit} {s : EditScript}

/-! ## The texts at an offset -/

/-- What is inserted at an offset: the texts one after the other. -/
def insertedAt (offset : Nat) (edits : List Edit) : Bytes :=
  (insertionsAt offset edits).flatMap fun e => encode e.text

theorem length_insertedAt_of_perm (h : es'.Perm es) (offset : Nat) :
    (insertedAt offset es').length = (insertedAt offset es).length :=
  ((h.filter _).flatMap_right _).length_eq

theorem insertedAt_cons_of_lt (h : e.start < e.stop) (offset : Nat) :
    insertedAt offset (e :: es) = insertedAt offset es := by
  rw [insertedAt, insertedAt, insertionsAt_cons_of_not (by omega)]

namespace SplitAt

theorem insertedAt_back (h : SplitAt offset edits [] back) : insertedAt offset back = [] := by
  have hnone : insertionsAt offset back = [] := by
    refine insertionsAt_eq_nil fun e he _ hstop => ?_
    have := (h.behind e he).2
    omega
  rw [insertedAt, hnone]
  rfl

theorem insertedAt_back_of_ne (h : SplitAt offset edits [] back) (hne : other ≠ offset) :
    insertedAt other back = insertedAt other edits := by
  have hnone : insertionsAt other (insertionsAt offset edits) = [] := by
    refine insertionsAt_eq_nil fun e he hstart _ => ?_
    exact hne (hstart.symm.trans (mem_insertionsAt.mp he).2.1)
  have hsplit : insertionsAt other edits =
      insertionsAt other (insertionsAt offset edits) ++ insertionsAt other back := by
    conv_lhs => rw [h.joined, List.nil_append]
    exact List.filter_append ..
  rw [insertedAt, insertedAt, hsplit, hnone, List.nil_append]

/-- Edits insert the same at every offset when they do so at the first and behind it. -/
theorem insertedAt_eq_iff (h' : SplitAt offset es' [] back') (h : SplitAt offset es [] back) :
    (insertedAt offset es' = insertedAt offset es ∧
        ∀ other, insertedAt other back' = insertedAt other back) ↔
      ∀ other, insertedAt other es' = insertedAt other es := by
  constructor
  · rintro ⟨hhere, hbehind⟩ other
    by_cases hother : other = offset
    · rw [hother, hhere]
    · rw [← h'.insertedAt_back_of_ne hother, hbehind, h.insertedAt_back_of_ne hother]
  · intro hall
    refine ⟨hall offset, fun other => ?_⟩
    by_cases hother : other = offset
    · rw [hother, h'.insertedAt_back, h.insertedAt_back]
    · rw [h'.insertedAt_back_of_ne hother, h.insertedAt_back_of_ne hother, hall]

theorem back_perm (h' : SplitAt offset es' [] back') (h : SplitAt offset es [] back)
    (hperm : es'.Perm es) : back'.Perm back := by
  have hjoined : es = insertionsAt offset es ++ back := h.joined
  have hjoined' : es' = insertionsAt offset es' ++ back' := h'.joined
  have hgroups : (insertionsAt offset es').Perm (insertionsAt offset es) := hperm.filter _
  rw [hjoined', hjoined] at hperm
  exact (List.perm_append_left_iff _).mp ((hgroups.symm.append_right back').trans hperm)

theorem length_back_lt (h : SplitAt offset es [] back) (he : e ∈ insertionsAt offset es) :
    back.length < es.length := by
  have hlength := congrArg List.length h.joined
  have hsome := List.length_pos_of_mem he
  simp only [List.length_append, List.length_nil] at hlength
  omega

end SplitAt

/-- Edits of which none starts before an offset: the insertions at it come out first. -/
theorem exists_behind (h : overlapAfter cursor es = none) (hcursor : cursor ≤ offset)
    (hes : ∀ e ∈ es, offset ≤ e.start) :
    ∃ back, SplitAt offset es [] back ∧ overlapAfter offset back = none ∧
      ∀ source, replaceAll source cursor es =
        between source cursor offset ++ insertedAt offset es ++ replaceAll source offset back := by
  obtain ⟨front, back, hsplit⟩ := exists_splitAt h fun e he => .inr (hes e he)
  obtain rfl := hsplit.front_eq_nil hes
  have hordered := (overlapAfter_iff_pairwise.mp h).2
  have hfrom : overlapAfter offset es = none := overlapAfter_iff_pairwise.mpr ⟨hes, hordered⟩
  have hjoined : es = insertionsAt offset es ++ back := hsplit.joined
  refine ⟨back, hsplit, ?_, fun source => ?_⟩
  · rw [hjoined] at hordered
    exact overlapAfter_iff_pairwise.mpr
      ⟨fun e he => (hsplit.behind e he).1, (List.pairwise_append.mp hordered).2.1⟩
  · have hinsertions : replaceAll source offset (insertionsAt offset es ++ back) =
        insertedAt offset es ++ replaceAll source offset back :=
      replaceAll_insertions_append fun e he => (mem_insertionsAt.mp he).2
    rw [replaceAll_from hcursor hfrom, List.append_assoc, ← hinsertions, ← hjoined]

/-! ## Two orders -/

theorem exists_eq_cons_of_lt (h : overlapAfter cursor es = none)
    (hlater : ∀ f ∈ es, e.start ≤ f.start) (he : e ∈ es) (hwide : e.start < e.stop)
    (hnone : insertionsAt e.start es = []) : ∃ rest, es = e :: rest := by
  have hzero : overlapAfter 0 es = none :=
    overlapAfter_zero_iff.mpr (overlapAfter_iff_pairwise.mp h).2
  obtain ⟨back, hsplit, -, -⟩ := exists_behind hzero (Nat.zero_le _) hlater
  obtain ⟨rest, hback⟩ := hsplit.eq_cons_of_mem hzero he rfl hwide
  have hjoined := hsplit.joined
  rw [hnone, hback] at hjoined
  exact ⟨rest, hjoined⟩

/-- Edits in two orders, neither with an overlap, do the same exactly when at every offset the same
is inserted. -/
theorem replaceAll_eq_iff_of_perm (source : Bytes) (h : overlapAfter cursor es = none)
    (h' : overlapAfter cursor es' = none) (hperm : es'.Perm es) :
    replaceAll source cursor es' = replaceAll source cursor es ↔
      ∀ offset, insertedAt offset es' = insertedAt offset es := by
  -- A replacement is taken away alone. Insertions at one offset are taken away together, for it is
  -- only their texts as a whole that have to agree.
  induction hsize : es.length using Nat.strong_induction_on generalizing cursor es es' with
  | _ size ih =>
  subst hsize
  cases es with
  | nil =>
    obtain rfl := hperm.eq_nil
    exact iff_of_true rfl fun _ => rfl
  | cons e rest =>
    obtain ⟨hcursor, hrest⟩ := overlapAfter_cons.mp h
    have hafter := le_start_of_overlapAfter hrest
    have hlater : ∀ f ∈ e :: rest, e.start ≤ f.start := by
      refine List.forall_mem_cons.mpr ⟨Nat.le_refl _, fun f hf => ?_⟩
      exact Nat.le_trans e.ordered (hafter f hf)
    have hlater' : ∀ f ∈ es', e.start ≤ f.start := fun f hf => hlater f (hperm.mem_iff.mp hf)
    by_cases hwide : e.start < e.stop
    · have hnone : insertionsAt e.start es' = [] := by
        refine insertionsAt_eq_nil fun f hf hstart hstop => ?_
        rcases List.mem_cons.mp (hperm.mem_iff.mp hf) with rfl | hf
        · omega
        · have := hafter f hf
          omega
      obtain ⟨rest', rfl⟩ :=
        exists_eq_cons_of_lt h' hlater' (hperm.mem_iff.mpr List.mem_cons_self) hwide hnone
      calc replaceAll source cursor (e :: rest') = replaceAll source cursor (e :: rest)
        _ ↔ replaceAll source e.stop rest' = replaceAll source e.stop rest := by
          simp only [replaceAll]
          exact List.append_right_inj _
        _ ↔ ∀ offset, insertedAt offset rest' = insertedAt offset rest :=
          ih rest.length (by simp) hrest (overlapAfter_cons.mp h').2 hperm.cons_inv rfl
        _ ↔ ∀ offset, insertedAt offset (e :: rest') = insertedAt offset (e :: rest) := by
          simp only [insertedAt_cons_of_lt hwide]
    · have hpoint : e.stop = e.start := by
        have := e.ordered
        omega
      obtain ⟨back, hsplit, hback, hout⟩ := exists_behind h hcursor hlater
      obtain ⟨back', hsplit', hback', hout'⟩ := exists_behind h' hcursor hlater'
      have hfirst : e ∈ insertionsAt e.start (e :: rest) :=
        mem_insertionsAt.mpr ⟨List.mem_cons_self, rfl, hpoint⟩
      calc replaceAll source cursor es' = replaceAll source cursor (e :: rest)
        _ ↔ insertedAt e.start es' ++ replaceAll source e.start back' =
              insertedAt e.start (e :: rest) ++ replaceAll source e.start back := by
          rw [hout, hout', List.append_assoc, List.append_assoc]
          exact List.append_right_inj _
        _ ↔ insertedAt e.start es' = insertedAt e.start (e :: rest) ∧
              replaceAll source e.start back' = replaceAll source e.start back := by
          refine ⟨fun h => List.append_inj h (length_insertedAt_of_perm hperm e.start), ?_⟩
          rintro ⟨hhere, hbehind⟩
          rw [hhere, hbehind]
        _ ↔ insertedAt e.start es' = insertedAt e.start (e :: rest) ∧
              ∀ offset, insertedAt offset back' = insertedAt offset back :=
          and_congr_right fun _ => ih back.length (hsplit.length_back_lt hfirst) hback hback'
            (hsplit'.back_perm hsplit hperm) rfl
        _ ↔ ∀ offset, insertedAt offset es' = insertedAt offset (e :: rest) :=
          hsplit'.insertedAt_eq_iff hsplit

/-! ## Batch and script -/

theorem appliedTo_of_length_eq (h : (appliedTo content edits).length = edits.length) :
    appliedTo content edits = stableSort Edit.spanLe edits.reverse := by
  obtain ⟨left, hscan⟩ :=
    exists_scan content.length none (stableSort Edit.spanLe edits.reverse).reverse
  rw [appliedTo, chosenFrom_span] at h ⊢
  have hlength : (stableSort Edit.spanLe edits.reverse).length = edits.length := by
    rw [(stableSort_perm _).length_eq, List.length_reverse]
  rw [List.length_reverse] at h
  have hall := hscan.sublist.eq_of_length (by rw [h, List.length_reverse, hlength])
  rw [hall, List.reverse_reverse]

theorem applyBatch_of_accepted (h : EditScript.ofEdits edits = .ok s)
    (hin : s.stop ≤ content.length) :
    ∃ r, EditScript.ofEdits edits.reverse = .ok r ∧
      r.apply content = .ok (applyBatch content edits).1 ∧
      (applyBatch content edits).1 = replaceAll content 0 r.edits ∧
      (applyBatch content edits).2 = edits.length := by
  obtain ⟨hne, hapart, hinside⟩ := EditScript.accepted_within_iff.mp ⟨s, h, hin⟩
  obtain ⟨left, hbatch⟩ := exists_batch content edits
  have hwhole : (appliedTo content edits).length = edits.length :=
    hbatch.length_eq_iff.mpr (hbatch.left_eq_nil_iff.mpr ⟨hapart, hinside⟩)
  have hturned : ∃ r, EditScript.ofEdits edits.reverse = .ok r ∧ r.stop ≤ content.length := by
    refine EditScript.accepted_within_iff.mpr ⟨by simpa using hne, ?_, ?_⟩
    · exact ((List.reverse_perm edits).pairwise_iff Edit.Apart.symm).mpr hapart
    · intro e he
      exact hinside e (List.mem_reverse.mp he)
  obtain ⟨r, hr, hstop⟩ := hturned
  have houtput : (applyBatch content edits).1 = replaceAll content 0 r.edits := by
    rw [applyBatch_eq, appliedTo_of_length_eq hwhole, EditScript.edits_of_ofEdits hr]
  refine ⟨r, hr, ?_, houtput, ?_⟩
  · rw [houtput, r.apply_eq_replaceAll hstop]
  · rw [applyBatch_eq, hwhole]

/-- Of edits that a script accepts within the content a batch applies every one, and its output is
that of the script of the list turned round. It is the output of the script itself exactly when the
texts inserted at each offset are the same in either order. -/
theorem applyBatch_agrees_iff (h : EditScript.ofEdits edits = .ok s)
    (hin : s.stop ≤ content.length) :
    ∃ output, s.apply content = .ok output ∧
      (applyBatch content edits).2 = edits.length ∧
      (∃ r, EditScript.ofEdits edits.reverse = .ok r ∧
        r.apply content = .ok (applyBatch content edits).1) ∧
      ((applyBatch content edits).1 = output ↔
        ∀ offset, insertedAt offset edits.reverse = insertedAt offset edits) := by
  obtain ⟨r, hr, happly, houtput, hcount⟩ := applyBatch_of_accepted h hin
  have hperm : r.edits.Perm s.edits := by
    rw [EditScript.edits_of_ofEdits hr, EditScript.edits_of_ofEdits h]
    exact (stableSort_perm _).trans ((List.reverse_perm edits).trans (stableSort_perm _).symm)
  refine ⟨_, s.apply_eq_replaceAll hin, hcount, ⟨r, hr, happly⟩, ?_⟩
  calc (applyBatch content edits).1 = replaceAll content 0 s.edits
    _ ↔ replaceAll content 0 r.edits = replaceAll content 0 s.edits := by rw [houtput]
    _ ↔ ∀ offset, insertedAt offset r.edits = insertedAt offset s.edits :=
      replaceAll_eq_iff_of_perm content s.disjoint r.disjoint hperm
    _ ↔ ∀ offset, insertedAt offset edits.reverse = insertedAt offset edits := by
      simp only [insertedAt, insertionsAt_of_ofEdits hr, insertionsAt_of_ofEdits h]

def insertedTwice : List Edit := [⟨1, 1, "x", by decide⟩, ⟨1, 1, "y", by decide⟩]

/-- The script inserts them as they are given and the batch the other way round. -/
theorem applyBatch_agrees_iff_insertedTwice :
    ∃ s, EditScript.ofEdits insertedTwice = .ok s ∧ s.stop ≤ (encode "ab").length ∧
      s.apply (encode "ab") = .ok (encode "axyb") ∧
      applyBatch (encode "ab") insertedTwice = (encode "ayxb", 2) ∧
      insertedAt 1 insertedTwice.reverse ≠ insertedAt 1 insertedTwice ∧
      (applyBatch (encode "ab") insertedTwice).1 ≠ encode "axyb" := by
  have hmade : EditScript.ofEdits insertedTwice =
      .ok ⟨insertedTwice, List.cons_ne_nil _ _, by decide⟩ :=
    EditScript.ofEdits_eq_ok (by decide) _ _
  have hin : latestStop insertedTwice ≤ (encode "ab").length := by decide
  have hdiffer : insertedAt 1 insertedTwice.reverse ≠ insertedAt 1 insertedTwice := by
    decide +kernel
  obtain ⟨output, happly, -, -, hagrees⟩ := applyBatch_agrees_iff hmade hin
  have hwritten : EditScript.apply ⟨insertedTwice, List.cons_ne_nil _ _, by decide⟩ (encode "ab") =
      .ok (encode "axyb") := by decide +kernel
  obtain rfl := Except.ok.inj (happly.symm.trans hwritten)
  refine ⟨_, hmade, hin, hwritten, by decide +kernel, hdiffer, ?_⟩
  exact fun hsame => hdiffer (hagrees.mp hsame 1)

end TruncIdiom
