import Mathlib.Data.List.Chain
import TruncIdiom.Proofs.Edit.Script
import TruncIdiom.Proofs.Text.IllFormed

/-!
When merging a script into one edit loses nothing.

The merged edit holds the source between the edits of its script as text. Text that is read from
bytes is never written in fewer bytes (`length_le_length_encode_decode`), so what one gap gains no
other gap can make up for: the merged edit does what the script does exactly when every gap is a
text (`EditScript.merged_faithful_iff`).
-/

namespace TruncIdiom

open Text

variable {source : Bytes} {cursor : Nat} {e : Edit} {es : List Edit}

/-! ## No gap makes up for another -/

/-- What merged edits write, with the source behind them, is never shorter than what the edits
write. -/
theorem length_replaceAll_le (source : Bytes) (cursor : Nat) (es : List Edit) :
    (replaceAll source cursor es).length ≤
      (encode (mergedText source cursor es) ++ source.drop (reach cursor es)).length := by
  induction es generalizing cursor with
  | nil => simp [replaceAll, mergedText, reach]
  | cons e es ih =>
    have hgap := length_le_length_encode_decode (between source cursor e.start)
    have hrest := ih e.stop
    simp only [replaceAll, mergedText, reach, encode_append, List.length_append] at hrest ⊢
    omega

theorem textBetween_of_merged
    (h : encode (mergedText source cursor es) ++ source.drop (reach cursor es) =
      replaceAll source cursor es) : TextBetween source cursor es := by
  induction es generalizing cursor with
  | nil => trivial
  | cons e es ih =>
    have hgap := length_le_length_encode_decode (between source cursor e.start)
    have hrest := length_replaceAll_le source e.stop es
    simp only [replaceAll, mergedText, reach, encode_append, List.append_assoc] at h
    -- Neither part is shorter on the left, so both are as long as on the right.
    have hlength := congrArg List.length h
    simp only [List.length_append] at hlength hrest
    obtain ⟨hgap', htext⟩ := List.append_inj h (by omega)
    exact ⟨hgap', ih (List.append_cancel_left htext)⟩

theorem merged_eq_iff :
    encode (mergedText source cursor es) ++ source.drop (reach cursor es) =
      replaceAll source cursor es ↔ TextBetween source cursor es := by
  refine ⟨textBetween_of_merged, fun h => ?_⟩
  have hmerged := replaceAll_append h []
  rw [List.append_nil] at hmerged
  exact hmerged.symm

/-! ## The gaps of a script -/

def TextGap (source : Bytes) (a b : Edit) : Prop :=
  ∃ text, between source a.stop b.start = encode text

theorem textGap_iff {a b : Edit} : TextGap source a b ↔
    encode (decode (between source a.stop b.start)) = between source a.stop b.start :=
  encode_decode_iff.symm

instance (source : Bytes) (a b : Edit) : Decidable (TextGap source a b) :=
  decidable_of_iff _ textGap_iff.symm

theorem textBetween_iff_isChain :
    TextBetween source e.stop es ↔ (e :: es).IsChain (TextGap source) := by
  induction es generalizing e with
  | nil => simp [TextBetween]
  | cons next rest ih => rw [TextBetween, ih, List.isChain_cons_cons, textGap_iff]

theorem EditScript.textBetween_iff (s : EditScript) (source : Bytes) :
    TextBetween source s.start s.edits ↔ s.edits.IsChain (TextGap source) := by
  obtain ⟨e, es, hes, hstart⟩ := s.edits_eq_cons
  -- In front of the first edit the merged edit keeps nothing.
  have hfirst : encode (decode (between source e.start e.start)) =
      between source e.start e.start := by
    rw [between_self]
    rfl
  rw [hes, hstart, TextBetween, ← textBetween_iff_isChain]
  exact and_iff_right hfirst

/-- The merged edit spans the script, and applying it is applying the script exactly when the source
between any two edits that follow each other is a text. -/
theorem EditScript.merged_faithful_iff (s : EditScript) {source : Bytes}
    (h : s.stop ≤ source.length) :
    let m := s.merged source
    m.start = s.start ∧ m.stop = s.stop ∧
      (s.apply source = .ok (source.take m.start ++ encode m.text ++ source.drop m.stop) ↔
        s.edits.IsChain (TextGap source)) := by
  intro m
  refine ⟨rfl, rfl, ?_⟩
  have hfrom : replaceAll source 0 s.edits =
      source.take s.start ++ replaceAll source s.start s.edits :=
    replaceAll_from (Nat.zero_le _) (s.disjoint_from (Nat.le_refl _))
  calc s.apply source = .ok (source.take m.start ++ encode m.text ++ source.drop m.stop)
    _ ↔ replaceAll source s.start s.edits =
          encode (mergedText source s.start s.edits) ++
            source.drop (reach s.start s.edits) := by
      rw [s.apply_eq_replaceAll h, hfrom, Except.ok.injEq, List.append_assoc, s.reach_start]
      exact List.append_right_inj _
    _ ↔ TextBetween source s.start s.edits := eq_comm.trans merged_eq_iff
    _ ↔ s.edits.IsChain (TextGap source) := s.textBetween_iff source

/-- Three edits of which the first two stand around a letter outside ASCII. -/
def aroundGaps : EditScript :=
  ⟨[⟨0, 2, "x", by decide⟩, ⟨4, 5, "y", by decide⟩, ⟨6, 7, "z", by decide⟩], by decide, by decide⟩

/-- The first gap is kept and the second, a letter in Latin-1, is not. -/
theorem merged_faithful_iff_latin :
    let source := encode "aaéb" ++ [0xE9] ++ encode "c"
    let m := aroundGaps.merged source
    aroundGaps.stop ≤ source.length ∧
      aroundGaps.apply source = .ok (encode "xéy" ++ [0xE9] ++ encode "z") ∧
      m.start = 0 ∧ m.stop = 7 ∧ m.text = "xéy\uFFFDz" ∧
      aroundGaps.apply source ≠
        .ok (source.take m.start ++ encode m.text ++ source.drop m.stop) := by
  intro source m
  have hin : aroundGaps.stop ≤ source.length := by decide
  have hgap : ¬ aroundGaps.edits.IsChain (TextGap source) := by
    simp only [aroundGaps, List.isChain_cons_cons, not_and]
    intro _ hsecond
    exact absurd hsecond (by decide +kernel)
  obtain ⟨hstart, hstop, hfaithful⟩ := aroundGaps.merged_faithful_iff hin
  refine ⟨hin, by decide +kernel, hstart, hstop, by decide +kernel, ?_⟩
  exact fun happly => hgap (hfaithful.mp happly)

end TruncIdiom
