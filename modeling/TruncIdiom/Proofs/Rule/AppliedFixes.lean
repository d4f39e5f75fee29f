import Mathlib.Data.Set.List
import TruncIdiom.Proofs.Edit.InsertionOrder
import TruncIdiom.Proofs.Edit.Selection
import TruncIdiom.Rule.Message

/-!
The fixes that a pass applies, seen as edits.

Fixes whose spans lie in the source are records of edits. Those that a pass selects lie apart by a
byte or more, so their spans tell them apart: one script holds them whichever way round they are
given, a batch takes them all, and all three write the same (`agree_of_separate`). Which fixes are
selected depends on the fixes of each span and their order, and on nothing else of the messages
(`applyFixes_selects`).
-/

namespace TruncIdiom

open Text Collection

variable {size : Nat} {source : Bytes} {fix : SpanEdit} {fixes : List SpanEdit} {edits : List Edit}

/-! ## Records of edits -/

/-- Whether the span of a record is in order and lies in a source of so many bytes. -/
def SpanEdit.Within (size : Nat) (fix : SpanEdit) : Prop :=
  0 ≤ fix.start ∧ fix.start ≤ fix.stop ∧ fix.stop ≤ size

theorem SpanEdit.Within.mem_range (h : fix.Within size) : fix ∈ Set.range Edit.record := by
  obtain ⟨hstart, hordered, -⟩ := h
  refine ⟨⟨fix.start.toNat, fix.stop.toNat, fix.text, by omega⟩, ?_⟩
  simp only [Edit.record, Int.toNat_of_nonneg hstart,
    Int.toNat_of_nonneg (Int.le_trans hstart hordered)]

theorem exists_edits (h : ∀ fix ∈ fixes, fix.Within size) :
    ∃ edits : List Edit, edits.map Edit.record = fixes ∧ ∀ e ∈ edits, e.stop ≤ size := by
  have hrange : fixes ∈ Set.range (List.map Edit.record) := by
    rw [Set.range_list_map]
    exact fun fix hfix => (h fix hfix).mem_range
  obtain ⟨edits, rfl⟩ := hrange
  refine ⟨edits, rfl, fun e he => ?_⟩
  exact Int.ofNat_le.mp (h e.record (List.mem_map_of_mem he)).2.2

theorem spliceFixes_records (source : Bytes) (cursor : Nat) (edits : List Edit) :
    spliceFixes source cursor (edits.map Edit.record) = replaceAll source cursor edits := by
  induction edits generalizing cursor with
  | nil => rfl
  | cons e es ih =>
    rw [List.map_cons, spliceFixes, ih, replaceAll]
    rfl

/-! ## Edits that lie apart -/

/-- Edits with a byte or more between them: a script of them, a batch of them and the splice of
their records are one. -/
theorem agree_of_separate (hapart : edits.Pairwise fun a b => a.stop < b.start)
    (hin : ∀ e ∈ edits, e.stop ≤ source.length) (hne : edits ≠ []) :
    ∃ s, EditScript.ofEdits edits = .ok s ∧ s.apply source = .ok (replaceAll source 0 edits) ∧
      applyBatch source edits = (replaceAll source 0 edits, edits.length) := by
  have hdisjoint : overlapAfter 0 edits = none :=
    overlapAfter_zero_iff.mpr (hapart.imp Nat.le_of_lt)
  have htold : edits.Pairwise Edit.ToldBySpan := by
    refine hapart.imp fun {a b} hlt hstart _ => ?_
    have := a.ordered
    omega
  have hmade : EditScript.ofEdits edits = .ok ⟨edits, hne, hdisjoint⟩ :=
    EditScript.ofEdits_of_perm (List.Perm.refl edits) hne hdisjoint htold
  have hturned : EditScript.ofEdits edits.reverse = .ok ⟨edits, hne, hdisjoint⟩ :=
    EditScript.ofEdits_of_perm (List.reverse_perm edits) hne hdisjoint htold
  have hwithin : EditScript.stop ⟨edits, hne, hdisjoint⟩ ≤ source.length := EditScript.stop_le _ hin
  obtain ⟨r, hr, -, hbatch, hcount⟩ := applyBatch_of_accepted hmade hwithin
  -- The batch goes by the list turned round, which is the same script.
  obtain rfl := Except.ok.inj (hr.symm.trans hturned)
  exact ⟨_, hmade, EditScript.apply_eq_replaceAll _ hwithin, Prod.ext hbatch hcount⟩

/-! ## How a pass divides fixes -/

/-- How a pass divides fixes: the edits it applies, in source order and with a byte or more between
them, and the fixes it leaves for later, each of which starts within one that is applied or where
that one ends. -/
structure Division (fixes : List SpanEdit) (applied : List Edit) (others : List SpanEdit) :
    Prop where
  shared : (applied.map Edit.record ++ others).Perm fixes
  separate : applied.Pairwise fun a b => a.stop < b.start
  touching : ∀ fix ∈ others, ∃ e ∈ applied, (e.start : Int) ≤ fix.start ∧ fix.start ≤ e.stop

theorem exists_division (h : ∀ fix ∈ fixes, fix.Within size) :
    ∃ (applied : List Edit) (others : List SpanEdit),
      selectFixes fixes = applied.map Edit.record ∧ Division fixes applied others ∧
        ∀ e ∈ applied, e.stop ≤ size := by
  have hordered : ∀ fix ∈ fixes, 0 ≤ fix.start ∧ fix.start ≤ fix.stop :=
    fun fix hfix => ⟨(h fix hfix).1, (h fix hfix).2.1⟩
  obtain ⟨others, hshared⟩ := selectBy_append_perm id fixes
  rw [← List.map_id (selectBy id fixes), map_selectBy, List.map_id] at hshared
  have hselected : ∀ fix ∈ selectFixes fixes, fix.Within size :=
    fun fix hfix => h fix (hshared.subset (List.mem_append_left _ hfix))
  obtain ⟨applied, hrecords, hin⟩ := exists_edits hselected
  refine ⟨applied, others, hrecords.symm, ⟨hrecords ▸ hshared, ?_, ?_⟩, hin⟩
  · have hsep : (applied.map Edit.record).Pairwise fun a b => a.stop < b.start :=
      hrecords ▸ (separate_takeSeparate (-1) _).pairwise
    exact (List.pairwise_map.mp hsep).imp Int.ofNat_lt.mp
  · intro fix hfix
    have hmem : fix ∈ fixes := hshared.subset (List.mem_append_right _ hfix)
    -- A fix that was selected once can be left out as a copy of itself.
    obtain ⟨other, hother, hspan⟩ :
        ∃ other ∈ selectFixes fixes, other.start ≤ fix.start ∧ fix.start ≤ other.stop := by
      rcases mem_selectFixes_or hordered hmem with htaken | htouch
      · exact ⟨fix, htaken, Int.le_refl _, (hordered fix hmem).2⟩
      · exact htouch
    rw [← hrecords] at hother
    obtain ⟨e, he, rfl⟩ := List.mem_map.mp hother
    exact ⟨e, he, hspan⟩

/-! ## The order of the messages -/

def SpanEdit.span (fix : SpanEdit) : Span Int := ⟨fix.start, fix.stop⟩

theorem SpanEdit.tied_spanLe_iff {a b : SpanEdit} :
    tied SpanEdit.spanLe a b = true ↔ b.span = a.span := by
  simp only [tied, Bool.and_eq_true, SpanEdit.spanLe_iff, SpanEdit.span, Span.mk.injEq]
  omega

namespace Rule

def fixing (span : Span Int) (messages : List Message) : List Message :=
  messages.filter fun m => m.fix.map SpanEdit.span = some span

theorem filter_tied_fixes (a : SpanEdit) (messages : List Message) :
    (messages.filterMap (·.fix)).filter (tied SpanEdit.spanLe a) =
      (fixing a.span messages).filterMap (·.fix) := by
  rw [fixing, List.filter_filterMap, List.filterMap_filter]
  congr 1
  funext m
  cases hfix : m.fix with
  | none => simp
  | some fix =>
    rw [Option.filter_some]
    simp only [Option.map_some, Option.some.injEq, decide_eq_true_eq, SpanEdit.tied_spanLe_iff]

/-- What a pass writes depends on the fixes of each span and their order. -/
theorem applyFixes_of_fixing {reordered messages : List Message}
    (h : ∀ span, fixing span reordered = fixing span messages) (source : Bytes) :
    applyFixes source (reordered.filterMap (·.fix)) =
      applyFixes source (messages.filterMap (·.fix)) := by
  have hselected : selectFixes (reordered.filterMap (·.fix)) =
      selectFixes (messages.filterMap (·.fix)) := by
    have hties : ∀ a, (reordered.filterMap (·.fix)).filter (tied SpanEdit.spanLe a) =
        (messages.filterMap (·.fix)).filter (tied SpanEdit.spanLe a) := by
      intro a
      rw [filter_tied_fixes, filter_tied_fixes, h]
    rw [selectFixes, selectFixes, stableSort_congr SpanEdit.spanLe_ranking hties]
  rw [applyFixes, applyFixes, hselected]

/-- Of the fixes of some messages a pass applies those that lie apart by a byte or more; each of the
others starts within one of them or where it ends. The output is the source if none is applied, and
otherwise that of the script of those applied and that of the batch of them. Messages in another
order make no difference, as long as those whose fixes have one span stand as they stood. -/
theorem applyFixes_selects (source : Bytes) (messages : List Message)
    (hspans : ∀ m ∈ messages, ∀ fix ∈ m.fix,
      0 ≤ fix.start ∧ fix.start ≤ fix.stop ∧ fix.stop ≤ source.length) :
    ∃ applied others output,
      applyFixes source (messages.filterMap (·.fix)) = (output, applied.length) ∧
      Division (messages.filterMap (·.fix)) applied others ∧
      (applied = [] → output = source) ∧
      (applied ≠ [] → ∃ s, EditScript.ofEdits applied = .ok s ∧ s.apply source = .ok output ∧
        applyBatch source applied = (output, applied.length)) ∧
      ∀ reordered : List Message, (∀ span, fixing span reordered = fixing span messages) →
        applyFixes source (reordered.filterMap (·.fix)) = (output, applied.length) := by
  have hwithin : ∀ fix ∈ messages.filterMap (·.fix), fix.Within source.length := by
    intro fix hfix
    obtain ⟨m, hm, hmfix⟩ := List.mem_filterMap.mp hfix
    exact hspans m hm fix hmfix
  obtain ⟨applied, others, hselected, hdivision, hin⟩ := exists_division hwithin
  have hpass : applyFixes source (messages.filterMap (·.fix)) =
      (replaceAll source 0 applied, applied.length) := by
    rw [applyFixes, hselected, spliceFixes_records, List.length_map]
  refine ⟨applied, others, _, hpass, hdivision, ?_, ?_, ?_⟩
  · rintro rfl
    rfl
  · exact agree_of_separate hdivision.separate hin
  · intro reordered hsame
    rw [applyFixes_of_fixing hsame, hpass]

/-- Messages whose fixes insert at the end of a replacement, delete a byte further on, and replace
the part in front. -/
def touchingMessages : List Message :=
  [⟨2, 2, "y"⟩, ⟨3, 4, ""⟩, ⟨0, 2, "x"⟩].map fun fix =>
    { text := "", position := ⟨1, 1⟩, endPosition := ⟨1, 1⟩, fix := some fix }

/-- The insertion touches the replacement and waits; the other two are applied. -/
theorem applyFixes_selects_touching :
    (∀ m ∈ touchingMessages, ∀ fix ∈ m.fix,
      0 ≤ fix.start ∧ fix.start ≤ fix.stop ∧ fix.stop ≤ (encode "abcd").length) ∧
    applyFixes (encode "abcd") (touchingMessages.filterMap (·.fix)) = (encode "xc", 2) ∧
    applyFixes (encode "abcd") (touchingMessages.reverse.filterMap (·.fix)) = (encode "xc", 2) ∧
    ∃ applied others, Division (touchingMessages.filterMap (·.fix)) applied others ∧
      applied.length = 2 ∧
      ∃ s, EditScript.ofEdits applied = .ok s ∧ s.apply (encode "abcd") = .ok (encode "xc") ∧
        applyBatch (encode "abcd") applied = (encode "xc", 2) := by
  have hspans : ∀ m ∈ touchingMessages, ∀ fix ∈ m.fix,
      0 ≤ fix.start ∧ fix.start ≤ fix.stop ∧ fix.stop ≤ (encode "abcd").length := by
    decide +kernel
  have hpass : applyFixes (encode "abcd") (touchingMessages.filterMap (·.fix)) =
      (encode "xc", 2) := by decide +kernel
  obtain ⟨applied, others, output, heq, hdivision, -, hagree, hreordered⟩ :=
    applyFixes_selects (encode "abcd") touchingMessages hspans
  obtain ⟨rfl, hcount⟩ := Prod.mk.inj (hpass.symm.trans heq)
  have hreversed : ∀ span, fixing span touchingMessages.reverse = fixing span touchingMessages := by
    intro span
    by_cases htaken : span ∈ [⟨2, 2⟩, ⟨3, 4⟩, ⟨0, 2⟩]
    · revert span
      decide +kernel
    · have hnone : fixing span touchingMessages = [] := by
        rw [fixing, List.filter_eq_nil_iff]
        simpa [touchingMessages, SpanEdit.span, eq_comm] using htaken
      rw [hnone, fixing, List.filter_reverse, ← fixing, hnone, List.reverse_nil]
  have hsome : applied ≠ [] := by
    rintro rfl
    cases hcount
  rw [← hcount] at hagree hreordered
  exact ⟨hspans, hpass, hreordered _ hreversed, applied, others, hdivision, hcount.symm,
    hagree hsome⟩

end Rule

end TruncIdiom
