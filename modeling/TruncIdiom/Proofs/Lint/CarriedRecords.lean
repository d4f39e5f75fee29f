import TruncIdiom.Proofs.Lint.RewrittenLines

/-!
What a message carries lies within the tree.

The edits of the rule start and end where nodes do, so the record of a message ends within the tree,
whatever the bytes of the source are (`exists_edit_of_carries`). Where the source is a text and the
tree has its offsets between characters, the record makes a text of it again
(`exists_text_of_carries`).
-/

namespace TruncIdiom.Lint

open Text Syntax Rule

/-! ## Scripts -/

section
variable {ctx : CheckContext} {l p : Location} {d : Diagnostic}

theorem inside_whole (hl : l.whole.Nested) (hp : p.whole = l.whole) :
    p.info.Inside l.whole.info := by
  have hwhole : p.whole.Nested := hp ▸ hl
  have hinside : p.info.Inside p.whole.info := (nested_of_wholeOf hwhole).2
  rwa [hp] at hinside

theorem stop_le_of_rewriteEdits {script : EditScript} {text : String} (hl : l.whole.Nested)
    (hedits : script.edits = rewriteEdits l text (Location.start_le_stop hl)) :
    script.stop ≤ l.whole.info.stop := by
  have houter := (inside_whole hl (Location.whole_outermost l)).2
  have hordered : l.outermost.info.start ≤ l.outermost.info.stop :=
    Location.start_le_stop (Location.whole_outermost l ▸ hl)
  refine script.stop_le fun e he => ?_
  rw [hedits, rewriteEdits, List.mem_append, List.mem_cons] at he
  rcases he with he | rfl | he
  · have := span_of_mem_blankIf he
    omega
  · exact (inside_whole hl rfl).2
  · have := span_of_mem_blankIf he
    omega

theorem stop_le_of_reports {hl : l.whole.Nested} {script : EditScript} (h : Reports ctx l hl d)
    (hscript : script ∈ scriptsOf d.remedy) : script.stop ≤ l.whole.info.stop := by
  cases h with
  | guarded _ _ _ => cases hscript
  | @assigned left right operator _ idiom _ _ sign _ _ _ hedits =>
    obtain rfl := List.mem_singleton.mp hscript
    have hsign := whole_of_mem_children (Location.of_childInField? sign).1
    have hzero := Location.whole_of_operand? idiom.onRight
    refine EditScript.stop_le _ fun e he => ?_
    rw [hedits, mem_assignmentEdits] at he
    rcases he with rfl | rfl
    · exact (inside_whole hl hsign).2
    · exact (inside_whole hl hzero).2
  | suggested _ _ _ hedits | replaced _ _ _ hedits | doubled _ hedits =>
    obtain rfl := List.mem_singleton.mp hscript
    exact stop_le_of_rewriteEdits hl hedits

end

/-! ## Messages -/

section
variable {linter : Linter} {source : Bytes} {m : Message} {record : SpanEdit}

theorem exists_reports_of_carries (hrules : linter.rules = defaultRules)
    (hnested : (linter.parser source).Nested) (hm : m ∈ linter.messages source)
    (hcarries : Carries m record) :
    ∃ (l : Location) (hl : l.whole.Nested) (d : Diagnostic) (script : EditScript),
      l.whole = linter.parser source ∧ Reports (linter.context source) l hl d ∧
        script ∈ scriptsOf d.remedy ∧ mergedRecord script source = record := by
  rcases mem_messages hm with ⟨-, node, rfl⟩ | hfound
  · exact absurd hcarries not_carries_faultMessage
  · obtain ⟨l, hplace, d, hl, hreports, rfl⟩ :=
      exists_reports_of_mem_found hrules hnested hfound
    obtain ⟨script, hscript, hrecord⟩ := carries_message.mp hcarries
    exact ⟨l, hl, d, script, mem_places_iff.mp hplace, hreports, hscript, hrecord⟩

/-- What a message of a nested tree carries is the record of an edit that ends within the tree. -/
theorem exists_edit_of_carries (hrules : linter.rules = defaultRules)
    (hnested : (linter.parser source).Nested) (hm : m ∈ linter.messages source)
    (hcarries : Carries m record) :
    ∃ edit : Edit, edit.record = record ∧ edit.stop ≤ (linter.parser source).info.stop := by
  obtain ⟨l, hl, d, script, hwhole, hreports, hscript, hrecord⟩ :=
    exists_reports_of_carries hrules hnested hm hcarries
  exact ⟨script.merged source, hrecord, hwhole ▸ stop_le_of_reports hreports hscript⟩

theorem exists_text_of_carries (hrules : linter.rules = defaultRules)
    (hnested : (linter.parser source).Nested)
    (hboundary : ∀ p ∈ (linter.parser source).places [], AtBoundaries source p.info)
    (hm : m ∈ linter.messages source) (hcarries : Carries m record) :
    ∃ text, record.apply source = encode text := by
  obtain ⟨l, hl, d, script, hwhole, hreports, hscript, rfl⟩ :=
    exists_reports_of_carries hrules hnested hm hcarries
  have hall : ∀ p : Location, p.whole = l.whole → AtBoundaries source p.info := by
    intro p hp
    exact hboundary p (mem_places_iff.mpr (hp.trans hwhole))
  exact (rewrites_of_reports hreports hall hscript).result.exists_text hl hall

end

end TruncIdiom.Lint
