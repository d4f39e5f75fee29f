import TruncIdiom.Proofs.Edit.Selection
import TruncIdiom.Rule.Message

/-!
A fix pass applies whole scripts.

A message shows the script of its diagnostic merged into one record, and a pass selects records.
`applyFixes_messagesOf` says what that comes to: the scripts of the diagnostics selected are applied
at once with all of their edits, as one script in which nothing overlaps, and no edit of another
diagnostic is. Nothing selected is the one case without such a script, for a script holds at least
one edit (`no_script_of_nothing_selected`); the source is then left as it is.
-/

namespace TruncIdiom.Rule

open Text

def Diagnostic.fixScript? (d : Diagnostic) : Option EditScript :=
  match d.remedy with
  | .fix script => some script
  | _ => none

def messagesOf (source : Bytes) (level : Lint.Level) (found : List (RuleInfo × Diagnostic)) :
    List Message := found.map fun (info, d) => d.message info source level

/-- The diagnostics that have a fix, each with its script. -/
def fixable (found : List (RuleInfo × Diagnostic)) : List (Diagnostic × EditScript) :=
  found.filterMap fun (_, d) => d.fixScript?.map fun script => (d, script)

/-- The diagnostics whose merged fixes a pass selects, each with its script. -/
def selectedToFix (source : Bytes) (found : List (RuleInfo × Diagnostic)) :
    List (Diagnostic × EditScript) :=
  selectBy (fun p => mergedRecord p.2 source) (fixable found)

theorem fix_message (d : Diagnostic) (info : RuleInfo) (source : Bytes) (level : Lint.Level) :
    (d.message info source level).fix =
      d.fixScript?.map fun script => mergedRecord script source := by
  simp only [Diagnostic.message, Diagnostic.fixScript?]
  cases d.remedy <;> rfl

theorem fixes_messagesOf (source : Bytes) (level : Lint.Level)
    (found : List (RuleInfo × Diagnostic)) :
    (messagesOf source level found).filterMap (·.fix) =
      (fixable found).map fun p => mergedRecord p.2 source := by
  rw [messagesOf, fixable, List.filterMap_map, List.map_filterMap]
  congr 1
  funext p
  rw [Function.comp_apply, fix_message, Option.map_map]
  rfl

theorem map_selectedToFix (source : Bytes) (level : Lint.Level)
    (found : List (RuleInfo × Diagnostic)) :
    (selectedToFix source found).map (fun p => mergedRecord p.2 source) =
      selectFixes ((messagesOf source level found).filterMap (·.fix)) := by
  rw [selectedToFix, map_selectBy, fixes_messagesOf]

/-- The fixes of a pass are applied script by script and all at once. The selected diagnostics are
some of the fixable ones, by their records; taken in any order their edits make one script, and the
output of the pass is what that script makes of the source. -/
theorem applyFixes_messagesOf (source : Bytes) (level : Lint.Level)
    (found : List (RuleInfo × Diagnostic))
    (hboundary : ∀ p ∈ fixable found, ∀ e ∈ p.2.edits,
      Boundary source e.start ∧ Boundary source e.stop) :
    let fixes := (messagesOf source level found).filterMap (·.fix)
    let selected := selectedToFix source found
    (∃ left, (selected ++ left).Perm (fixable found)) ∧
      selected.map (fun p => mergedRecord p.2 source) = selectFixes fixes ∧
      (selected = [] → applyFixes source fixes = (source, 0)) ∧
      (selected ≠ [] → ∀ order : List (Diagnostic × EditScript), order.Perm selected →
        ∃ script output, EditScript.ofEdits (order.flatMap (·.2.edits)) = .ok script ∧
          script.edits = selected.flatMap (·.2.edits) ∧
          script.apply source = .ok output ∧
          applyFixes source fixes = (output, selected.length)) := by
  intro fixes selected
  have hselect : selected.map (fun p => mergedRecord p.2 source) = selectFixes fixes :=
    map_selectedToFix source level found
  have hrecords : (selected.map (·.2)).map (fun s => (s.merged source).record) =
      selectFixes fixes := by
    rw [← hselect, List.map_map]
    rfl
  refine ⟨selectBy_append_perm _ _, hselect, ?_, ?_⟩
  · intro hnone
    rw [hnone] at hselect
    rw [applyFixes, ← hselect]
    rfl
  · intro hsome order horder
    have hsep := separate_takeSeparate (-1) (Collection.stableSort SpanEdit.spanLe fixes)
    rw [← selectFixes, ← hrecords] at hsep
    have hscripts : ∀ s ∈ selected.map (·.2), ∀ e ∈ s.edits,
        Boundary source e.start ∧ Boundary source e.stop := by
      intro s hs
      obtain ⟨p, hp, rfl⟩ := List.mem_map.mp hs
      exact hboundary p (mem_of_mem_selectBy hp)
    obtain ⟨script, hscript, hedits, happly⟩ := spliceFixes_eq_apply hsep hscripts
      (horder.map (·.2)) (by simpa using hsome)
    rw [allEdits, List.flatMap_map] at hscript hedits
    refine ⟨script, _, hscript, hedits, happly, ?_⟩
    rw [applyFixes, hrecords, ← hselect, List.length_map]

/-- A diagnostic of two edits at `a|=0` and one of an insertion that touches the first. -/
def touchingFound : List (RuleInfo × Diagnostic) :=
  let node : Syntax.NodeInfo := ⟨"augmented_assignment_expression", 0, 4, true, false, none, false⟩
  [(truncationInfo, ⟨node, bitwiseZeroId, [],
      .fix ⟨[⟨1, 3, "=", by decide⟩, ⟨3, 4, "Math.trunc(a)", by decide⟩], by decide, by decide⟩⟩),
    (truncationInfo, ⟨node, doubleNotId, [],
      .fix ⟨[⟨4, 4, " ", by decide⟩], by decide, by decide⟩⟩)]

/-- The insertion touches the script in front of it and is left for a later pass. -/
theorem applyFixes_touchingFound :
    ∃ script,
      EditScript.ofEdits
          ((selectedToFix (encode "a|=0;") touchingFound).flatMap (·.2.edits)) = .ok script ∧
        script.apply (encode "a|=0;") = .ok (encode "a=Math.trunc(a);") ∧
        applyFixes (encode "a|=0;")
            ((messagesOf (encode "a|=0;") .error touchingFound).filterMap (·.fix)) =
          (encode "a=Math.trunc(a);", 1) := by
  have hfixes : applyFixes (encode "a|=0;")
      ((messagesOf (encode "a|=0;") .error touchingFound).filterMap (·.fix)) =
        (encode "a=Math.trunc(a);", 1) := by decide +kernel
  obtain ⟨-, -, -, hsome⟩ :=
    applyFixes_messagesOf (encode "a|=0;") .error touchingFound (by decide +kernel)
  obtain ⟨script, output, hscript, -, happly, hpass⟩ := hsome (by decide) _ (List.Perm.refl _)
  obtain ⟨rfl, -⟩ := Prod.mk.inj (hpass.symm.trans hfixes)
  exact ⟨script, hscript, happly, hfixes⟩

/-- Nothing selected makes no script, although the pass gives the source back. -/
theorem no_script_of_nothing_selected :
    applyFixes (encode "a") ((messagesOf (encode "a") .error []).filterMap (·.fix)) =
        (encode "a", 0) ∧
      ¬ ∃ script output,
        EditScript.ofEdits ((selectedToFix (encode "a") []).flatMap (·.2.edits)) = .ok script ∧
          script.apply (encode "a") = .ok output ∧
          applyFixes (encode "a") ((messagesOf (encode "a") .error []).filterMap (·.fix)) =
            (output, (selectedToFix (encode "a") []).length) := by
  refine ⟨rfl, ?_⟩
  rintro ⟨script, output, hscript, -⟩
  cases hscript

end TruncIdiom.Rule
