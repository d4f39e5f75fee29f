import Mathlib.Algebra.Ring.Int.Defs
import Mathlib.Data.List.Pairwise
import TruncIdiom.Edit.Batch
import TruncIdiom.Proofs.Edit.Acceptance

/-!
Applying a script is replacing all its spans at once.

The content is edited from the back, so the offsets of the edits still to come stay those of the
source; what comes out is the gaps of the source and the texts of the edits in turn
(`EditScript.apply_simultaneous`). Its size follows from the spans and the texts alone. At an offset
where something is inserted the output falls into what the edits in front make of the source up to
there, the insertions in the order they were given, and what the edits behind make of the rest, a
replacement that starts there before all else.
-/

namespace TruncIdiom

open Text Collection

variable {source : Bytes} {cursor offset : Nat} {edits es front back : List Edit} {s : EditScript}

/-! ## The size of the output -/

def Edit.growth (e : Edit) : Int := (encode e.text).length - (e.stop - e.start)

theorem length_between (source : Bytes) {start stop : Nat} (h : start ≤ stop)
    (hstop : stop ≤ source.length) : (between source start stop).length = stop - start := by
  rw [between, List.length_drop, List.length_take]
  omega

theorem length_replaceAll (h : overlapAfter cursor es = none)
    (hin : reach cursor es ≤ source.length) :
    ((replaceAll source cursor es).length : Int) =
      source.length - cursor + (es.map Edit.growth).sum := by
  induction es generalizing cursor with
  | nil =>
    simp only [reach] at hin
    simp only [replaceAll, List.length_drop, List.map_nil, List.sum_nil]
    omega
  | cons e es ih =>
    obtain ⟨hle, hes⟩ := overlapAfter_cons.mp h
    have hstop : e.stop ≤ source.length := Nat.le_trans (stop_le_reach hes).1 hin
    have hordered := e.ordered
    have hgap := length_between source hle (by omega)
    have hrest := ih hes hin
    simp only [replaceAll, List.length_append, List.map_cons, List.sum_cons, Edit.growth] at hrest ⊢
    omega

/-! ## The output on either side of an offset -/

/-- The edits that insert at an offset, as they stand in a list. -/
def insertionsAt (offset : Nat) (edits : List Edit) : List Edit :=
  edits.filter (·.span = ⟨offset, offset⟩)

theorem mem_insertionsAt {e : Edit} :
    e ∈ insertionsAt offset edits ↔ e ∈ edits ∧ e.start = offset ∧ e.stop = offset := by
  simp [insertionsAt, Edit.span]

theorem insertionsAt_cons {e : Edit} (h : e.start = offset ∧ e.stop = offset) :
    insertionsAt offset (e :: es) = e :: insertionsAt offset es := by
  simp [insertionsAt, Edit.span, h]

theorem insertionsAt_cons_of_not {e : Edit} (h : ¬ (e.start = offset ∧ e.stop = offset)) :
    insertionsAt offset (e :: es) = insertionsAt offset es := by
  simp [insertionsAt, Edit.span, h]

theorem insertionsAt_eq_nil (h : ∀ e ∈ edits, e.start = offset → e.stop ≠ offset) :
    insertionsAt offset edits = [] := by
  rw [List.eq_nil_iff_forall_not_mem]
  intro e he
  obtain ⟨hmem, hstart, hstop⟩ := mem_insertionsAt.mp he
  exact h e hmem hstart hstop

/-- Edits around an offset: those that end there at the latest, the insertions at it, and those that
reach past it. -/
structure SplitAt (offset : Nat) (edits front back : List Edit) : Prop where
  joined : edits = front ++ insertionsAt offset edits ++ back
  before : ∀ e ∈ front, e.start < offset ∧ e.stop ≤ offset
  behind : ∀ e ∈ back, offset ≤ e.start ∧ offset < e.stop

namespace SplitAt

variable {e : Edit}

theorem mem_front (h : SplitAt offset edits front back) (he : e ∈ front) : e ∈ edits := by
  rw [h.joined]
  exact List.mem_append_left _ (List.mem_append_left _ he)

theorem cons_before (h : SplitAt offset es front back) (hstart : e.start < offset)
    (hstop : e.stop ≤ offset) : SplitAt offset (e :: es) (e :: front) back where
  joined := by
    have hinsertions : insertionsAt offset (e :: es) = insertionsAt offset es :=
      insertionsAt_cons_of_not fun hat => by omega
    rw [hinsertions, List.cons_append, List.cons_append, ← h.joined]
  before := List.forall_mem_cons.mpr ⟨⟨hstart, hstop⟩, h.before⟩
  behind := h.behind

theorem cons_insertion (h : SplitAt offset es [] back) (hstart : e.start = offset)
    (hstop : e.stop = offset) : SplitAt offset (e :: es) [] back where
  joined := by
    have hjoined := h.joined
    rw [List.nil_append] at hjoined
    rw [insertionsAt_cons ⟨hstart, hstop⟩, List.nil_append, List.cons_append, ← hjoined]
  before := List.forall_mem_nil _
  behind := h.behind

theorem of_behind (h : ∀ e ∈ es, offset ≤ e.start ∧ offset < e.stop) :
    SplitAt offset es [] es where
  joined := by
    have hnone : insertionsAt offset es = [] := by
      refine insertionsAt_eq_nil fun e he hstart => ?_
      have := h e he
      omega
    rw [hnone, List.nil_append, List.nil_append]
  before := List.forall_mem_nil _
  behind := h

theorem front_eq_nil (h : SplitAt offset es front back) (hes : ∀ e ∈ es, offset ≤ e.start) :
    front = [] := by
  rw [List.eq_nil_iff_forall_not_mem]
  intro e he
  have := hes e (h.mem_front he)
  have := h.before e he
  omega

end SplitAt

theorem exists_splitAt (h : overlapAfter cursor es = none)
    (hapart : ∀ e ∈ es, e.stop ≤ offset ∨ offset ≤ e.start) :
    ∃ front back, SplitAt offset es front back := by
  induction es generalizing cursor with
  | nil => exact ⟨[], [], .of_behind (List.forall_mem_nil _)⟩
  | cons e es ih =>
    obtain ⟨-, hes⟩ := overlapAfter_cons.mp h
    have hordered := e.ordered
    have hlater := le_start_of_overlapAfter hes
    obtain ⟨hfirst, hrest⟩ := List.forall_mem_cons.mp hapart
    obtain ⟨front, back, hsplit⟩ := ih hes hrest
    by_cases hbefore : e.start < offset
    · exact ⟨e :: front, back, hsplit.cons_before hbefore (by omega)⟩
    by_cases hinsertion : e.stop = offset
    · have hfront : front = [] := hsplit.front_eq_nil (hinsertion ▸ hlater)
      subst hfront
      exact ⟨[], back, hsplit.cons_insertion (by omega) hinsertion⟩
    · -- The edit reaches past the offset, and all later ones are behind it.
      refine ⟨[], e :: es, .of_behind (List.forall_mem_cons.mpr ⟨by omega, fun f hf => ?_⟩)⟩
      have := hlater f hf
      have := f.ordered
      omega

theorem between_take (source : Bytes) {start stop size : Nat} (h : stop ≤ size) :
    between (source.take size) start stop = between source start stop := by
  rw [between, List.take_take, Nat.min_eq_left h, between]

/-- Edits that end at an offset at the latest see the source up to there only. -/
theorem replaceAll_front_append (hcursor : cursor ≤ offset) (hfront : ∀ e ∈ front, e.stop ≤ offset)
    (hback : overlapAfter offset back = none) :
    replaceAll source cursor (front ++ back) =
      replaceAll (source.take offset) cursor front ++ replaceAll source offset back := by
  induction front generalizing cursor with
  | nil => exact replaceAll_from hcursor hback
  | cons e front ih =>
    obtain ⟨hstop, hrest⟩ := List.forall_mem_cons.mp hfront
    have hordered := e.ordered
    simp only [List.cons_append, replaceAll]
    rw [ih hstop hrest, between_take source (by omega)]
    simp only [List.append_assoc]

theorem replaceAll_insertions_append (h : ∀ e ∈ es, e.start = offset ∧ e.stop = offset) :
    replaceAll source offset (es ++ back) =
      (es.flatMap fun e => encode e.text) ++ replaceAll source offset back := by
  induction es with
  | nil => rfl
  | cons e es ih =>
    obtain ⟨⟨hstart, hstop⟩, hrest⟩ := List.forall_mem_cons.mp h
    simp only [List.cons_append, replaceAll, List.flatMap_cons]
    rw [hstart, hstop, ih hrest, between_self, List.nil_append, List.append_assoc]

theorem SplitAt.replaceAll_eq (h : SplitAt offset edits front back)
    (hedits : overlapAfter 0 edits = none) :
    replaceAll source 0 edits =
      replaceAll (source.take offset) 0 front ++
        ((insertionsAt offset edits).flatMap fun e => encode e.text) ++
        replaceAll source offset back := by
  have hinsertions : ∀ e ∈ insertionsAt offset edits, e.start = offset ∧ e.stop = offset :=
    fun e he => (mem_insertionsAt.mp he).2
  have hpairs := (overlapAfter_iff_pairwise.mp hedits).2
  rw [h.joined, List.append_assoc] at hpairs
  have hback : overlapAfter offset (insertionsAt offset edits ++ back) = none := by
    refine overlapAfter_iff_pairwise.mpr ⟨?_, (List.pairwise_append.mp hpairs).2.1⟩
    intro e he
    rcases List.mem_append.mp he with he | he
    · exact Nat.le_of_eq (hinsertions e he).1.symm
    · exact (h.behind e he).1
  calc replaceAll source 0 edits
    _ = replaceAll source 0 (front ++ (insertionsAt offset edits ++ back)) := by
      rw [← List.append_assoc, ← h.joined]
    _ = _ := by
      rw [replaceAll_front_append (Nat.zero_le _) (fun e he => (h.before e he).2) hback,
        replaceAll_insertions_append hinsertions, List.append_assoc]

theorem SplitAt.eq_cons_of_mem {e : Edit} (h : SplitAt offset edits front back)
    (hedits : overlapAfter 0 edits = none) (he : e ∈ edits) (hstart : e.start = offset)
    (hstop : offset < e.stop) : ∃ rest, back = e :: rest := by
  have hmem : e ∈ back := by
    rw [h.joined, List.append_assoc, List.mem_append, List.mem_append, mem_insertionsAt] at he
    rcases he with hfront | hinsertion | hback
    · have := h.before e hfront
      omega
    · omega
    · exact hback
  have hpairs := (overlapAfter_iff_pairwise.mp hedits).2
  rw [h.joined] at hpairs
  cases back with
  | nil => cases hmem
  | cons first rest =>
    rcases List.mem_cons.mp hmem with rfl | hrest
    · exact ⟨rest, rfl⟩
    · have hfirst := (List.pairwise_cons.mp (List.pairwise_append.mp hpairs).2.1).1 e hrest
      have := h.behind first List.mem_cons_self
      omega

/-! ## Scripts -/

/-- A script has the insertions at an offset in the order they were given. -/
theorem insertionsAt_of_ofEdits (h : EditScript.ofEdits edits = .ok s) (offset : Nat) :
    insertionsAt offset s.edits = insertionsAt offset edits := by
  have hspan : (fun e : Edit => decide (e.span = ⟨offset, offset⟩)) =
      tied Edit.spanLe ⟨offset, offset, "", Nat.le_refl offset⟩ := by
    funext e
    rw [Bool.eq_iff_iff, Edit.tied_spanLe_iff, decide_eq_true_eq]
    rfl
  rw [insertionsAt, insertionsAt, EditScript.edits_of_ofEdits h, hspan,
    filter_tied_stableSort Edit.spanLe_ranking]

theorem apart_of_insertion (h : overlapAfter 0 es = none) (hsome : insertionsAt offset es ≠ []) :
    ∀ e ∈ es, e.stop ≤ offset ∨ offset ≤ e.start := by
  intro e he
  obtain ⟨insertion, hinsertion⟩ := List.exists_mem_of_ne_nil _ hsome
  obtain ⟨hmem, hstart, hstop⟩ := mem_insertionsAt.mp hinsertion
  by_cases heq : e = insertion
  · exact .inl (heq ▸ Nat.le_of_eq hstop)
  · have hpairs : es.Pairwise Edit.Apart := (overlapAfter_iff_pairwise.mp h).2.imp .inl
    have hapart := hpairs.forall he hmem heq
    rwa [Edit.Apart, hstart, hstop] at hapart

/-- A script that ends within the source replaces all its spans at once, and no other is applied.
The output is as long as the source and the edits say. At an offset where something is inserted it
falls into what comes of the source in front, the insertions as they were given, and what comes of
the source behind, which begins with the replacement that starts there if there is one. -/
theorem EditScript.apply_simultaneous (h : EditScript.ofEdits edits = .ok s) (source : Bytes) :
    let last := s.edits.getLast s.nonempty
    (source.length < last.stop →
      s.apply source = .error (.pastEnd last.stop source.length)) ∧
    (last.stop ≤ source.length → ∃ output, s.apply source = .ok output ∧
      output = replaceAll source 0 s.edits ∧
      (output.length : Int) = source.length + (s.edits.map Edit.growth).sum ∧
      ∀ offset, insertionsAt offset edits ≠ [] → ∃ front back,
        s.edits = front ++ insertionsAt offset edits ++ back ∧
        output = replaceAll (source.take offset) 0 front ++
          ((insertionsAt offset edits).flatMap fun e => encode e.text) ++
          replaceAll source offset back ∧
        ∀ e ∈ edits, e.start = offset → offset < e.stop → ∃ rest, back = e :: rest) := by
  intro last
  have hlast : s.stop = last.stop := s.stop_eq_getLast
  constructor
  · intro hpast
    rw [EditScript.apply, if_pos (by omega), hlast]
  · intro hin
    refine ⟨_, s.apply_eq_replaceAll (by omega), rfl, ?_, ?_⟩
    · rw [length_replaceAll s.disjoint (s.stop_eq_reach ▸ hlast ▸ hin)]
      omega
    · intro offset hsome
      rw [← insertionsAt_of_ofEdits h] at hsome ⊢
      obtain ⟨front, back, hsplit⟩ :=
        exists_splitAt s.disjoint (apart_of_insertion s.disjoint hsome)
      refine ⟨front, back, hsplit.joined, hsplit.replaceAll_eq s.disjoint, ?_⟩
      intro e he
      refine hsplit.eq_cons_of_mem s.disjoint ?_
      rwa [edits_of_ofEdits h, mem_stableSort]

def crowdedScript : EditScript :=
  ⟨stableSort Edit.spanLe crowded, by decide, by decide⟩

/-- The insertions at offset 5 come out as they were given, in front of the replacement. -/
theorem apply_simultaneous_crowded :
    EditScript.ofEdits crowded = .ok crowdedScript ∧
      crowdedScript.apply (encode "0123456789") = .ok (encode "a(!b)9") ∧
      crowdedScript.apply (encode "01234567") = .error (.pastEnd 9 8) := by
  have hmade : EditScript.ofEdits crowded = .ok crowdedScript :=
    EditScript.ofEdits_eq_ok rfl _ _
  obtain ⟨-, hwithin⟩ := EditScript.apply_simultaneous hmade (encode "0123456789")
  obtain ⟨hpast, -⟩ := EditScript.apply_simultaneous hmade (encode "01234567")
  obtain ⟨output, happly, houtput, -⟩ := hwithin (by decide)
  have htext : replaceAll (encode "0123456789") 0 crowdedScript.edits = encode "a(!b)9" := by
    decide +kernel
  refine ⟨hmade, ?_, hpast (by decide)⟩
  rw [happly, houtput, htext]

end TruncIdiom
