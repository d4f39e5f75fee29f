import TruncIdiom.Edit.Selection
import TruncIdiom.Proofs.Edit.Script

/-!
What a pass over fixes selects, and what it writes.

`selectBy` is the selection on whatever carries a record, so that what was selected is still known
after it. The records selected lie apart, with at least one untouched byte between two of them, and
a record that is passed over starts within one that is selected (`mem_selectFixes_or`). Every byte
outside their spans is written as it was (`sameOutside_applyFixes`). When they are merged scripts,
splicing them is applying one script that holds the edits of all of them, given in any order of the
scripts (`ofEdits_of_separate`, `spliceFixes_eq_apply`).
-/

namespace TruncIdiom

open Text Collection

theorem SpanEdit.spanLe_iff {a b : SpanEdit} :
    a.spanLe b = true ↔ a.start < b.start ∨ a.start = b.start ∧ a.stop ≤ b.stop := by
  simp [SpanEdit.spanLe]

theorem SpanEdit.spanLe_ranking : Ranking SpanEdit.spanLe := by
  constructor
  · intro a b
    rw [spanLe_iff, spanLe_iff]
    omega
  · intro a b c hab hbc
    rw [spanLe_iff] at *
    omega

/-! ## Selecting what carries a record -/

section
variable {α : Type}

/-- Those of some items, in source order, whose records start after `lastStop` and after each
other. -/
def takeSeparateBy (record : α → SpanEdit) (lastStop : Int) : List α → List α
  | [] => []
  | x :: xs =>
    if (record x).start ≤ lastStop ∨ (record x).stop < (record x).start then
      takeSeparateBy record lastStop xs
    else x :: takeSeparateBy record (record x).stop xs

def selectBy (record : α → SpanEdit) (items : List α) : List α :=
  takeSeparateBy record (-1) (stableSort (fun a b => (record a).spanLe (record b)) items)

theorem map_takeSeparateBy (record : α → SpanEdit) (lastStop : Int) (items : List α) :
    (takeSeparateBy record lastStop items).map record =
      takeSeparate lastStop (items.map record) := by
  induction items generalizing lastStop with
  | nil => rfl
  | cons x xs ih =>
    simp only [takeSeparateBy, takeSeparate, List.map_cons]
    split
    · exact ih lastStop
    · rw [List.map_cons, ih]

theorem map_selectBy (record : α → SpanEdit) (items : List α) :
    (selectBy record items).map record = selectFixes (items.map record) := by
  rw [selectBy, map_takeSeparateBy, map_stableSort, selectFixes]

theorem takeSeparateBy_sublist (record : α → SpanEdit) (lastStop : Int) (items : List α) :
    (takeSeparateBy record lastStop items).Sublist items := by
  induction items generalizing lastStop with
  | nil => exact List.Sublist.refl _
  | cons x xs ih =>
    simp only [takeSeparateBy]
    split
    · exact (ih lastStop).cons x
    · exact (ih _).cons_cons x

theorem selectBy_append_perm (record : α → SpanEdit) (items : List α) :
    ∃ left, (selectBy record items ++ left).Perm items := by
  obtain ⟨left, h⟩ := (takeSeparateBy_sublist record (-1) _).exists_perm_append
  exact ⟨left, h.symm.trans (stableSort_perm items)⟩

theorem mem_of_mem_selectBy {record : α → SpanEdit} {items : List α} {x : α}
    (h : x ∈ selectBy record items) : x ∈ items :=
  mem_stableSort.mp ((takeSeparateBy_sublist record (-1) _).subset h)

end

/-! ## Records that lie apart -/

def Separate (lastStop : Int) : List SpanEdit → Prop
  | [] => True
  | fix :: fixes => lastStop < fix.start ∧ fix.start ≤ fix.stop ∧ Separate fix.stop fixes

theorem separate_takeSeparate (lastStop : Int) (fixes : List SpanEdit) :
    Separate lastStop (takeSeparate lastStop fixes) := by
  induction fixes generalizing lastStop with
  | nil => trivial
  | cons fix fixes ih =>
    simp only [takeSeparate]
    split
    · exact ih lastStop
    · exact ⟨by omega, by omega, ih fix.stop⟩

theorem Separate.lt_start {lastStop : Int} {fixes : List SpanEdit} (h : Separate lastStop fixes) :
    ∀ fix ∈ fixes, lastStop < fix.start := by
  induction fixes generalizing lastStop with
  | nil => simp
  | cons fix fixes ih =>
    obtain ⟨hlt, hle, hrest⟩ := h
    intro other hother
    rcases List.mem_cons.mp hother with rfl | hmem
    · exact hlt
    · have := ih hrest other hmem
      omega

theorem Separate.pairwise {lastStop : Int} {fixes : List SpanEdit} (h : Separate lastStop fixes) :
    fixes.Pairwise fun a b => a.stop < b.start := by
  induction fixes generalizing lastStop with
  | nil => exact List.Pairwise.nil
  | cons fix fixes ih =>
    obtain ⟨-, -, hrest⟩ := h
    exact List.pairwise_cons.mpr ⟨hrest.lt_start, ih hrest⟩

/-! ## Why a fix is not selected -/

/-- A fix that is not taken starts within one that is. -/
theorem mem_takeSeparate_or {fixes : List SpanEdit} {fix : SpanEdit} (lastStop : Int)
    (hsorted : fixes.Pairwise (SpanEdit.spanLe · · = true))
    (hspans : ∀ fix ∈ fixes, fix.start ≤ fix.stop) (hfix : fix ∈ fixes) :
    fix ∈ takeSeparate lastStop fixes ∨ fix.start ≤ lastStop ∨
      ∃ other ∈ takeSeparate lastStop fixes, other.start ≤ fix.start ∧ fix.start ≤ other.stop := by
  induction fixes generalizing lastStop with
  | nil => cases hfix
  | cons first rest ih =>
    obtain ⟨hfirst, hrest⟩ := List.pairwise_cons.mp hsorted
    obtain ⟨hspan, hspans⟩ := List.forall_mem_cons.mp hspans
    rw [takeSeparate]
    rcases List.mem_cons.mp hfix with rfl | hmem
    · split
      · exact .inr (.inl (by omega))
      · exact .inl List.mem_cons_self
    · split
      · exact ih lastStop hrest hspans hmem
      · rcases ih first.stop hrest hspans hmem with
          htaken | hwithin | ⟨other, hother, htouch⟩
        · exact .inl (List.mem_cons_of_mem _ htaken)
        · have hle : first.start ≤ fix.start := by
            have := SpanEdit.spanLe_iff.mp (hfirst fix hmem)
            omega
          exact .inr (.inr ⟨first, List.mem_cons_self, hle, hwithin⟩)
        · exact .inr (.inr ⟨other, List.mem_cons_of_mem _ hother, htouch⟩)

theorem mem_selectFixes_or {fixes : List SpanEdit} {fix : SpanEdit}
    (h : ∀ fix ∈ fixes, 0 ≤ fix.start ∧ fix.start ≤ fix.stop) (hfix : fix ∈ fixes) :
    fix ∈ selectFixes fixes ∨
      ∃ other ∈ selectFixes fixes, other.start ≤ fix.start ∧ fix.start ≤ other.stop := by
  have hspans : ∀ fix ∈ stableSort SpanEdit.spanLe fixes, fix.start ≤ fix.stop :=
    fun fix hmem => (h fix (mem_stableSort.mp hmem)).2
  rcases mem_takeSeparate_or (-1) (pairwise_stableSort SpanEdit.spanLe_ranking fixes) hspans
      (mem_stableSort.mpr hfix) with htaken | hwithin | htouch
  · exact .inl htaken
  · have := (h fix hfix).1
    omega
  · exact .inr htouch

theorem selectFixes_eq_nil_iff {fixes : List SpanEdit}
    (h : ∀ fix ∈ fixes, 0 ≤ fix.start ∧ fix.start ≤ fix.stop) :
    selectFixes fixes = [] ↔ fixes = [] := by
  constructor
  · intro hnone
    rw [List.eq_nil_iff_forall_not_mem]
    intro fix hfix
    have hselected := mem_selectFixes_or h hfix
    simp [hnone] at hselected
  · rintro rfl
    rfl

/-! ## What a pass leaves as it was -/

/-- The source from offset `cursor` on, in which `f` stands for the bytes in the span of each
fix. -/
def withSpans (source : Bytes) (f : SpanEdit → Bytes → Bytes) (cursor : Nat) :
    List SpanEdit → Bytes
  | [] => source.drop cursor
  | fix :: fixes =>
    between source cursor fix.start.toNat ++
      f fix (between source fix.start.toNat fix.stop.toNat) ++
        withSpans source f fix.stop.toNat fixes

theorem spliceFixes_eq_withSpans (source : Bytes) (cursor : Nat) (fixes : List SpanEdit) :
    spliceFixes source cursor fixes =
      withSpans source (fun fix _ => encode fix.text) cursor fixes := by
  induction fixes generalizing cursor with
  | nil => rfl
  | cons fix fixes ih => rw [spliceFixes, withSpans, ih]

/-- With the bytes of the source in every span, what stands around the spans makes up the
source. -/
theorem withSpans_self {source : Bytes} {fixes : List SpanEdit} {lastStop : Int} {cursor : Nat}
    (h : Separate lastStop fixes) (hcursor : (cursor : Int) ≤ lastStop + 1) :
    withSpans source (fun _ old => old) cursor fixes = source.drop cursor := by
  induction fixes generalizing lastStop cursor with
  | nil => rfl
  | cons fix fixes ih =>
    obtain ⟨hlt, hle, hrest⟩ := h
    have hgap : cursor ≤ fix.start.toNat := by omega
    have hspan : fix.start.toNat ≤ fix.stop.toNat := by omega
    rw [withSpans, ih hrest (by omega), List.append_assoc, between_append_drop source hspan,
      between_append_drop source hgap]

/-- Two sources that are the same outside the spans of fixes in the first. In the spans the second
has the texts of the fixes. -/
def SameOutside (fixes : List SpanEdit) (source output : Bytes) : Prop :=
  withSpans source (fun _ old => old) 0 fixes = source ∧
    withSpans source (fun fix _ => encode fix.text) 0 fixes = output

/-- A pass keeps every byte outside the fixes it selects. -/
theorem sameOutside_applyFixes (source : Bytes) (fixes : List SpanEdit) :
    SameOutside (selectFixes fixes) source (applyFixes source fixes).1 := by
  have hsep := separate_takeSeparate (-1) (stableSort SpanEdit.spanLe fixes)
  constructor
  · exact withSpans_self hsep (Int.le_refl 0)
  · exact (spliceFixes_eq_withSpans source 0 (selectFixes fixes)).symm

/-! ## Whole scripts -/

def allEdits (scripts : List EditScript) : List Edit := scripts.flatMap (·.edits)

/-- The records of merged scripts that lie apart, spliced from a cursor in front of them on, do
what the edits of the scripts do, and none of these overlap. The cursor stands at the end of the
script in front, or at zero where `lastStop` is minus one. -/
theorem spliceFixes_merged {source : Bytes} {scripts : List EditScript} {lastStop : Int}
    {cursor : Nat} (hsep : Separate lastStop (scripts.map fun s => (s.merged source).record))
    (hcursor : (cursor : Int) ≤ lastStop + 1)
    (htext : ∀ s ∈ scripts, TextBetween source s.start s.edits) :
    overlapAfter cursor (allEdits scripts) = none ∧
      spliceFixes source cursor (scripts.map fun s => (s.merged source).record) =
        replaceAll source cursor (allEdits scripts) := by
  induction scripts generalizing lastStop cursor with
  | nil => exact ⟨rfl, rfl⟩
  | cons s scripts ih =>
    obtain ⟨hlt, -, hrest⟩ := hsep
    have hstart : cursor ≤ s.start := by
      have hrecord : lastStop < (s.start : Int) := hlt
      omega
    -- The cursor moves to the end of this script, which is where its record ends.
    have hnext : ((s.stop : Nat) : Int) ≤ (s.merged source).record.stop + 1 := by
      have hrecord : (s.merged source).record.stop = (s.stop : Int) := rfl
      omega
    obtain ⟨hdisjoint, hsplice⟩ :=
      ih hrest hnext fun t ht => htext t (List.mem_cons_of_mem s ht)
    constructor
    · rw [allEdits, List.flatMap_cons, overlapAfter_append, s.reach_start]
      exact ⟨s.disjoint_from hstart, hdisjoint⟩
    · rw [allEdits, List.flatMap_cons, ← allEdits,
        s.replaceAll_edits_append cursor (htext s List.mem_cons_self), ← hsplice]
      rfl

theorem flatMap_eq_of_perm {α β : Type} {f : α → List β} {xs ys : List α} (h : xs.Perm ys)
    (hone : xs.Pairwise fun a b => f a = [] ∨ f b = []) : xs.flatMap f = ys.flatMap f := by
  induction h with
  | nil => rfl
  | cons x _ ih => rw [List.flatMap_cons, List.flatMap_cons, ih (List.pairwise_cons.mp hone).2]
  | swap x y xs =>
    have hxy : f y = [] ∨ f x = [] := (List.pairwise_cons.mp hone).1 x List.mem_cons_self
    simp only [List.flatMap_cons]
    rcases hxy with h | h <;> simp [h]
  | trans hp _ ih ih' =>
    rw [ih hone]
    exact ih' ((hp.pairwise_iff fun h => h.symm).mp hone)

/-- Scripts of which each ends before the next starts hold no two edits that tie. -/
theorem filter_tied_edits {s t : EditScript} (h : s.stop < t.start) (e : Edit) :
    s.edits.filter (tied Edit.spanLe e) = [] ∨ t.edits.filter (tied Edit.spanLe e) = [] := by
  by_cases hs : ∃ a ∈ s.edits, tied Edit.spanLe e a = true
  · right
    rw [List.filter_eq_nil_iff]
    intro b hb heb
    obtain ⟨a, ha, hea⟩ := hs
    -- Edits that tie have one span, and these two lie in spans that are apart.
    have hstop := (s.span_of_mem ha).2
    have hstart := (t.span_of_mem hb).1
    have := a.ordered
    simp only [tied, Bool.and_eq_true, Edit.spanLe_iff] at hea heb
    omega
  · left
    rw [List.filter_eq_nil_iff]
    intro a ha hea
    exact hs ⟨a, ha, hea⟩

/-- The edits of scripts that lie apart, taken script by script in any order, make one script, which
holds them in source order. -/
theorem ofEdits_of_separate {source : Bytes} {scripts order : List EditScript} {lastStop : Int}
    (hsep : Separate lastStop (scripts.map fun s => (s.merged source).record))
    (horder : order.Perm scripts) (nonempty : allEdits scripts ≠ [])
    (disjoint : overlapAfter 0 (allEdits scripts) = none) :
    EditScript.ofEdits (allEdits order) = .ok ⟨allEdits scripts, nonempty, disjoint⟩ := by
  have hapart : scripts.Pairwise fun s t => s.stop < t.start := by
    refine (List.pairwise_map.mp hsep.pairwise).imp ?_
    intro s t h
    exact Int.ofNat_lt.mp h
  -- Edits that tie are all of one script, so the order of the scripts does not show in them.
  have htied : ∀ e, (allEdits order).filter (tied Edit.spanLe e) =
      (allEdits scripts).filter (tied Edit.spanLe e) := by
    intro e
    rw [allEdits, allEdits, List.filter_flatMap, List.filter_flatMap]
    exact (flatMap_eq_of_perm horder.symm (hapart.imp fun h => filter_tied_edits h e)).symm
  refine EditScript.ofEdits_eq_ok ?_ nonempty disjoint
  rw [stableSort_congr Edit.spanLe_ranking htied, stableSort_eq_self (pairwise_spanLe disjoint)]

theorem allEdits_ne_nil {scripts : List EditScript} (h : scripts ≠ []) : allEdits scripts ≠ [] := by
  cases scripts with
  | nil => exact absurd rfl h
  | cons s scripts =>
    rw [allEdits, List.flatMap_cons]
    exact List.append_ne_nil_of_left_ne_nil s.nonempty _

theorem mem_allEdits {scripts : List EditScript} {e : Edit} :
    e ∈ allEdits scripts ↔ ∃ s ∈ scripts, e ∈ s.edits := List.mem_flatMap

/-- Splicing merged scripts that lie apart is applying one script of all their edits. -/
theorem spliceFixes_eq_apply {source : Bytes} {scripts order : List EditScript}
    (hsep : Separate (-1) (scripts.map fun s => (s.merged source).record))
    (hboundary : ∀ s ∈ scripts, ∀ e ∈ s.edits, Boundary source e.start ∧ Boundary source e.stop)
    (horder : order.Perm scripts) (hne : scripts ≠ []) :
    ∃ script, EditScript.ofEdits (allEdits order) = .ok script ∧
      script.edits = allEdits scripts ∧
      script.apply source =
        .ok (spliceFixes source 0 (scripts.map fun s => (s.merged source).record)) := by
  have htext : ∀ s ∈ scripts, TextBetween source s.start s.edits :=
    fun s hs => s.textBetween_of_boundary (hboundary s hs)
  obtain ⟨hdisjoint, hsplice⟩ := spliceFixes_merged hsep (Int.le_refl 0) htext
  refine ⟨_, ofEdits_of_separate hsep horder (allEdits_ne_nil hne) hdisjoint, rfl, ?_⟩
  have hin : reach 0 (allEdits scripts) ≤ source.length := by
    refine reach_le (Nat.zero_le _) ?_
    intro e he
    obtain ⟨s, hs, hes⟩ := mem_allEdits.mp he
    exact (hboundary s hs e hes).2.le_length
  rw [EditScript.apply_eq_replaceAll _ (by rw [EditScript.stop_eq_reach]; exact hin), hsplice]

end TruncIdiom
