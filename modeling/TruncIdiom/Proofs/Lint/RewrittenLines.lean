import TruncIdiom.Proofs.Lint.RewriteEffect
import TruncIdiom.Proofs.Text.Lines

/-!
A rewritten idiom stays on its line.

What a rewrite makes of a text is a text, and the source in front of the idiom is still in front of
what stands for it. So the line on which the idiom was reported is a line of the result.
-/

namespace TruncIdiom.Lint

open Text Syntax Rule

/-! ## The result is a text -/

theorem exists_text_append {a b : Bytes} (ha : ∃ s, a = encode s) (hb : ∃ t, b = encode t) :
    ∃ u, a ++ b = encode u := by
  obtain ⟨s, rfl⟩ := ha
  obtain ⟨t, rfl⟩ := hb
  exact ⟨s ++ t, (encode_append s t).symm⟩

section
variable {source : Bytes} {l : Location}

theorem exists_text_take {offset : Nat} (h : Boundary source offset) :
    ∃ s, source.take offset = encode s :=
  ⟨_, (boundary_iff.mp h).2.1.symm⟩

theorem exists_text_drop {offset : Nat} (h : Boundary source offset) :
    ∃ s, source.drop offset = encode s :=
  ⟨_, (boundary_iff.mp h).2.2.symm⟩

theorem exists_text_between {start stop : Nat} (hstart : Boundary source start)
    (hstop : Boundary source stop) (h : start ≤ stop) :
    ∃ s, between source start stop = encode s :=
  ⟨_, (encode_decode_between hstart hstop h).symm⟩

theorem exists_text_blankBytes (p : Prop) [Decidable p] : ∃ s, blankBytes p = encode s := by
  unfold blankBytes
  split
  · exact ⟨" ", rfl⟩
  · exact ⟨"", rfl⟩

theorem exists_text_callOver {operand : Location} (h : AtBoundaries source operand.info)
    (hle : operand.info.start ≤ operand.info.stop) :
    ∃ s, callOver source operand = encode s := by
  have hbytes := exists_text_between h.1 h.2 hle
  unfold callOver
  refine exists_text_append (exists_text_append ⟨_, rfl⟩ ?_) ⟨_, rfl⟩
  split
  · exact exists_text_append (exists_text_append ⟨_, rfl⟩ hbytes) ⟨_, rfl⟩
  · exact hbytes

theorem exists_text_replacedIn {bytes : Bytes} (hl : l.whole.Nested)
    (hboundary : ∀ p : Location, p.whole = l.whole → AtBoundaries source p.info)
    (hbytes : ∃ s, bytes = encode s) : ∃ s, replacedIn source l bytes = encode s := by
  have hhere := hboundary l rfl
  have houter := hboundary l.outermost (Location.whole_outermost l)
  obtain ⟨hstart, hstop⟩ := Location.inside_outermost hl
  unfold replacedIn
  apply exists_text_append _ (exists_text_drop houter.2)
  apply exists_text_append _ (exists_text_blankBytes _)
  apply exists_text_append _ (exists_text_between hhere.2 houter.2 hstop)
  apply exists_text_append _ hbytes
  apply exists_text_append _ (exists_text_between houter.1 hhere.1 hstart)
  exact exists_text_append (exists_text_take houter.1) (exists_text_blankBytes _)

theorem RewrittenTo.exists_text {result : Bytes} (hl : l.whole.Nested)
    (hboundary : ∀ p : Location, p.whole = l.whole → AtBoundaries source p.info)
    (h : RewrittenTo source l result) : ∃ s, result = encode s := by
  have hcall : ∀ operand : Location, operand.whole = l.whole →
      ∃ s, callOver source operand = encode s := by
    intro operand hwhole
    have hnested : operand.whole.Nested := by rwa [hwhole]
    exact exists_text_callOver (hboundary operand hwhole) (Location.start_le_stop hnested)
  have hchild : ∀ {field : String} {c : Location}, l.childInField? field = some c →
      AtBoundaries source c.info := by
    intro field c hc
    exact hboundary c (whole_of_mem_children (Location.of_childInField? hc).1)
  cases h with
  | operation idiom operates =>
    exact exists_text_replacedIn hl hboundary (hcall _ (Location.whole_of_operand? idiom.onLeft))
  | complement idiom =>
    refine exists_text_replacedIn hl hboundary (hcall _ ?_)
    rw [Location.whole_of_operand? idiom.operand, Location.whole_of_operand? idiom.argument]
  | assignment idiom assigns sign order =>
    have hoperator := hchild sign
    have hright := hboundary _ (Location.whole_of_operand? idiom.onRight)
    have hleft := hcall _ (Location.whole_of_operand? idiom.onLeft)
    apply exists_text_append _ (exists_text_drop hright.2)
    apply exists_text_append _ hleft
    apply exists_text_append _ (exists_text_between hoperator.2 hright.1 order)
    exact exists_text_append (exists_text_take hoperator.1) ⟨_, rfl⟩
  | zeroFirst idiom assigns sign order =>
    have hoperator := hchild sign
    have hright := hboundary _ (Location.whole_of_operand? idiom.onRight)
    have hleft := hcall _ (Location.whole_of_operand? idiom.onLeft)
    apply exists_text_append _ (exists_text_drop hoperator.2)
    apply exists_text_append _ ⟨_, rfl⟩
    apply exists_text_append _ (exists_text_between hright.2 hoperator.1 order)
    exact exists_text_append (exists_text_take hright.1) hleft

/-! ## The line -/

theorem callOver_ne_nil (source : Bytes) (operand : Location) : callOver source operand ≠ [] := by
  have hname : encode "Math.trunc(" ≠ [] := by decide
  unfold callOver
  simp [hname]

theorem count_take_le {a b : Nat} (h : a ≤ b) :
    (source.take a).count newline ≤ (source.take b).count newline := by
  rw [← take_append_between source h, List.count_append]
  exact Nat.le_add_right _ _

/-- Where no newline in front of a place is lost and something stands behind, the line of the place
is still there. -/
theorem line_le_append {offset : Nat} {front back : Bytes}
    (hcount : (source.take offset).count newline ≤ front.count newline) (hne : back ≠ []) :
    (Position.ofOffset source offset).line ≤ lineCount (front ++ back) := by
  have hlt := lt_lineCount_append front hne
  rw [ofOffset_natCast]
  show (source.take offset).count newline + 1 ≤ lineCount (front ++ back)
  omega

theorem line_le_replacedIn {bytes : Bytes} (hl : l.whole.Nested) (hne : bytes ≠ []) :
    (Position.ofOffset source l.info.start).line ≤ lineCount (replacedIn source l bytes) := by
  obtain ⟨hstart, -⟩ := Location.inside_outermost hl
  -- In front of the bytes stands the source up to the node, and a blank at most.
  have hfront : (source.take l.info.start).count newline ≤
      (source.take l.outermost.info.start ++ blankBytes (KeywordBefore l.outermost) ++
        between source l.outermost.info.start l.info.start).count newline := by
    rw [← take_append_between source hstart]
    simp only [List.count_append]
    omega
  unfold replacedIn
  rw [List.append_assoc, List.append_assoc, List.append_assoc]
  exact line_le_append hfront (List.append_ne_nil_of_left_ne_nil hne _)

/-- The line of an idiom is one of the lines of what its rewrite makes of the source. -/
theorem RewrittenTo.line_le {result : Bytes} (hl : l.whole.Nested)
    (h : RewrittenTo source l result) :
    (Position.ofOffset source l.info.start).line ≤ lineCount result := by
  cases h with
  | operation idiom operates => exact line_le_replacedIn hl (callOver_ne_nil _ _)
  | complement idiom => exact line_le_replacedIn hl (callOver_ne_nil _ _)
  | assignment idiom assigns sign order =>
    obtain ⟨hstart, -⟩ :=
      Location.inside_of_mem_children hl (Location.of_childInField? sign).1
    have hsign : encode "=" ≠ [] := by decide
    simp only [List.append_assoc]
    exact line_le_append (count_take_le hstart) (List.append_ne_nil_of_left_ne_nil hsign _)
  | zeroFirst idiom assigns sign order =>
    obtain ⟨child, hchild, hinside, -⟩ := Location.inside_of_operand? hl idiom.onRight
    obtain ⟨hstart, -⟩ :=
      Location.inside_of_mem_children hl (Location.of_childInField? hchild).1
    simp only [List.append_assoc]
    exact line_le_append (count_take_le (Nat.le_trans hstart hinside))
      (List.append_ne_nil_of_left_ne_nil (callOver_ne_nil _ _) _)

end

end TruncIdiom.Lint
