import TruncIdiom.Proofs.Rule.Rewrite

/-!
What the rule reports.

`Reports` lists the diagnostics that the rule can make, one case for each remedy, with the edits of
the remedy. Over a nested tree an idiom is reported once (`reportsAt_of_idiom`): the check never
gives up, since the edits of each case are a script. Any other node is passed over
(`reportsAt_of_not_idiom`), so nothing else is ever reported (`reports_of_mem_reportsAt`).
-/

namespace TruncIdiom.Rule

open Text Syntax

def zeroData (source : Bytes) (l : Location) : Data :=
  [("operator", .string (l.tree.operatorText source)), ("value", .string "0")]

/-- The diagnostics at an idiom. An assignment whose target has an effect is left alone, an
operation with `|` has a suggestion, and all others have a fix. -/
inductive Reports (ctx : CheckContext) (l : Location) (hl : l.whole.Nested) : Diagnostic → Prop
  | guarded {left right : Location} (idiom : BitwiseZero ctx.source l left right)
      (assigns : l.kind = compoundAssignment)
      (effect : hasSideEffect ctx.source ctx.gettersCount left.tree = true) :
      Reports ctx l hl ⟨l.info, bitwiseZeroId, zeroData ctx.source l, .none⟩
  | assigned {left right operator : Location} {script : EditScript}
      (idiom : BitwiseZero ctx.source l left right) (assigns : l.kind = compoundAssignment)
      (pure : hasSideEffect ctx.source ctx.gettersCount left.tree = false)
      (sign : l.childInField? "operator" = some operator)
      (wideSign : operator.info.start < operator.info.stop)
      (wideZero : right.info.start < right.info.stop)
      (apart : operator.info.stop ≤ right.info.start ∨ right.info.stop ≤ operator.info.start)
      (edits : script.edits = assignmentEdits operator.info right.info (truncCall ctx left)
        (Nat.le_of_lt wideSign) (Nat.le_of_lt wideZero)) :
      Reports ctx l hl ⟨l.info, bitwiseZeroId, zeroData ctx.source l, .fix script⟩
  | suggested {left right : Location} {script : EditScript}
      (idiom : BitwiseZero ctx.source l left right) (operates : l.kind = "binary_expression")
      (bar : l.tree.operatorText ctx.source = "|")
      (edits : script.edits = rewriteEdits l (truncCall ctx left) (Location.start_le_stop hl)) :
      Reports ctx l hl ⟨l.info, bitwiseZeroId, zeroData ctx.source l,
        .suggestions ⟨bitwiseSuggestionId, script, zeroData ctx.source l⟩ []⟩
  | replaced {left right : Location} {script : EditScript}
      (idiom : BitwiseZero ctx.source l left right) (operates : l.kind = "binary_expression")
      (other : l.tree.operatorText ctx.source ≠ "|")
      (edits : script.edits = rewriteEdits l (truncCall ctx left) (Location.start_le_stop hl)) :
      Reports ctx l hl ⟨l.info, bitwiseZeroId, zeroData ctx.source l, .fix script⟩
  | doubled {inner target : Location} {script : EditScript}
      (idiom : DoubleComplement ctx.source l inner target)
      (edits : script.edits = rewriteEdits l (truncCall ctx target) (Location.start_le_stop hl)) :
      Reports ctx l hl ⟨l.info, doubleNotId, [], .fix script⟩

variable {ctx : CheckContext} {l : Location}

/-! ## Checks that match -/

theorem isZeroLiteral_iff {right : Location} :
    isZeroLiteral ctx right = true ↔ Zero ctx.source right := by
  rw [isZeroLiteral, Bool.and_eq_true, decide_eq_true_iff, decide_eq_true_iff]
  rfl

theorem isBitwiseNot_iff {l : Location} :
    isBitwiseNot ctx l = true ↔ Complement ctx.source l := by
  rw [isBitwiseNot, Bool.and_eq_true, decide_eq_true_iff, decide_eq_true_iff]
  rfl

theorem reported_ofReport {fix : Except EditError (List Edit)} {edits : List Edit}
    {script : EditScript} (d : EditScript → Diagnostic) (hfix : fix = .ok edits)
    (hscript : EditScript.ofEdits edits = .ok script) :
    (CheckRun.ofReport do
      let script ← EditScript.ofEdits (← fix)
      return d script).reported = [d script] := by
  rw [hfix]
  simp only [bind, Except.bind, hscript]
  rfl

/-- What the check looks up among the operators is in order exactly when the node truncates. -/
theorem contains_bare_iff (hkind : l.kind = "binary_expression" ∨ l.kind = compoundAssignment) :
    truncatingOperators.contains
        (if l.kind = compoundAssignment then withoutEquals (l.tree.operatorText ctx.source)
          else l.tree.operatorText ctx.source) = true ↔ Truncates ctx.source l := by
  rw [List.contains_iff_mem, Truncates]
  rcases hkind with hkind | hkind
  · simp [hkind, compoundAssignment, truncatingOperators]
  · simp [hkind, compoundAssignment, truncatingOperators]

theorem Truncates.kind (h : Truncates ctx.source l) :
    l.kind = "binary_expression" ∨ l.kind = compoundAssignment :=
  h.imp And.left And.left

theorem checkBitwiseZero_eq {left right : Location} (h : BitwiseZero ctx.source l left right) :
    (checkBitwiseZero ctx l).reported =
      if l.kind = compoundAssignment ∧
          hasSideEffect ctx.source ctx.gettersCount left.tree = true then
        [⟨l.info, bitwiseZeroId, zeroData ctx.source l, .none⟩]
      else
        (CheckRun.ofReport do
          let script ← EditScript.ofEdits (← bitwiseZeroFix ctx l left right)
          return .report l.info bitwiseZeroId (zeroData ctx.source l) (some script)
            (if l.tree.operatorText ctx.source = "|" then some bitwiseSuggestionId
              else none)).reported := by
  have hvalue : ctx.text right = "0" := h.zero.2
  simp only [checkBitwiseZero, h.onLeft, h.onRight, hvalue, isZeroLiteral_iff.mpr h.zero,
    (contains_bare_iff h.operator.kind).mpr h.operator, Bool.and_true, if_true, Bool.and_eq_true,
    decide_eq_true_iff]
  split <;> rfl

/-- An operation is replaced as a whole, after the blanks have been put in. -/
theorem bitwiseZeroFix_operation (ctx : CheckContext) (left right : Location)
    (hl : l.whole.Nested) (hkind : l.kind = "binary_expression")
    (hwidth : l.info.start < l.info.stop) :
    ∃ edits script, bitwiseZeroFix ctx l left right = .ok edits ∧
      EditScript.ofEdits edits = .ok script ∧
      script.edits = rewriteEdits l (truncCall ctx left) (Location.start_le_stop hl) := by
  have hperm : (blankIf (KeywordBefore l.outermost) l.outermost.info.start ++
      blankIf (KeywordAfter l.outermost) l.outermost.info.stop ++
        [nodeEdit l.info (truncCall ctx left) (Location.start_le_stop hl)]).Perm
      (rewriteEdits l (truncCall ctx left) (Location.start_le_stop hl)) := by
    rw [rewriteEdits, List.append_assoc]
    exact (List.perm_append_singleton _ _).append_left _
  obtain ⟨script, hscript, hedits⟩ := ofEdits_rewriteEdits hl hwidth hperm
  refine ⟨_, script, ?_, hscript, hedits⟩
  rw [bitwiseZeroFix, if_neg (by rw [hkind]; decide), keywordSpacing_eq,
    replaceNode_eq (Location.start_le_stop hl)]
  rfl

theorem bitwiseZeroFix_assignment (ctx : CheckContext) (left : Location)
    {right operator : Location} (hkind : l.kind = compoundAssignment)
    (hsign : l.childInField? "operator" = some operator)
    (hoperator : operator.info.start < operator.info.stop)
    (hright : right.info.start < right.info.stop)
    (hapart : operator.info.stop ≤ right.info.start ∨ right.info.stop ≤ operator.info.start) :
    ∃ edits script, bitwiseZeroFix ctx l left right = .ok edits ∧
      EditScript.ofEdits edits = .ok script ∧
      script.edits = assignmentEdits operator.info right.info (truncCall ctx left)
        (Nat.le_of_lt hoperator) (Nat.le_of_lt hright) := by
  obtain ⟨script, hscript, hedits⟩ :=
    ofEdits_assignmentEdits (truncCall ctx left) hoperator hright hapart
  refine ⟨_, script, ?_, hscript, hedits⟩
  rw [bitwiseZeroFix, if_pos hkind, hsign]
  simp only [replaceNode_eq (Nat.le_of_lt hoperator), replaceNode_eq (Nat.le_of_lt hright)]
  rfl

theorem doubleNotFix_eq (ctx : CheckContext) (target : Location) (hl : l.whole.Nested)
    (hwidth : l.info.start < l.info.stop) :
    ∃ edits script, doubleNotFix ctx l target = .ok edits ∧
      EditScript.ofEdits edits = .ok script ∧
      script.edits = rewriteEdits l (truncCall ctx target) (Location.start_le_stop hl) := by
  have hperm : (nodeEdit l.info (truncCall ctx target) (Location.start_le_stop hl) ::
      (blankIf (KeywordBefore l.outermost) l.outermost.info.start ++
        blankIf (KeywordAfter l.outermost) l.outermost.info.stop)).Perm
      (rewriteEdits l (truncCall ctx target) (Location.start_le_stop hl)) :=
    List.perm_middle.symm
  obtain ⟨script, hscript, hedits⟩ := ofEdits_rewriteEdits hl hwidth hperm
  refine ⟨_, script, ?_, hscript, hedits⟩
  rw [doubleNotFix, keywordSpacing_eq, replaceNode_eq (Location.start_le_stop hl)]
  rfl

theorem checkBitwiseZero_of {left right : Location} (hl : l.whole.Nested)
    (h : BitwiseZero ctx.source l left right) :
    ∃ d, (checkBitwiseZero ctx l).reported = [d] ∧ Reports ctx l hl d := by
  have htext := (Idiom.zero h).operatorText_ne_empty
  rw [checkBitwiseZero_eq h]
  rcases h.operator with ⟨hkind, -⟩ | ⟨hkind, hbare⟩
  · -- An operation is rewritten whatever its operator; only the kind of remedy differs.
    obtain ⟨edits, script, hfix, hscript, hedits⟩ := bitwiseZeroFix_operation ctx left right hl
      hkind (Location.start_lt_stop_of_operatorText hl htext)
    rw [if_neg (by rw [hkind]; exact fun h => absurd h.1 (by decide)),
      reported_ofReport _ hfix hscript]
    by_cases hbar : l.tree.operatorText ctx.source = "|"
    · rw [if_pos hbar]
      exact ⟨_, rfl, .suggested h hkind hbar hedits⟩
    · rw [if_neg hbar]
      exact ⟨_, rfl, .replaced h hkind hbar hedits⟩
  · cases heffect : hasSideEffect ctx.source ctx.gettersCount left.tree with
    | true =>
      rw [if_pos ⟨hkind, rfl⟩]
      exact ⟨_, rfl, .guarded h hkind heffect⟩
    | false =>
      have hbar : l.tree.operatorText ctx.source ≠ "|" := by
        intro hbar
        rw [hbar] at hbare
        exact absurd hbare (by decide)
      obtain ⟨operator, hsign, hoperator⟩ := Location.exists_operator htext
      obtain ⟨value, hvalue, hinside⟩ := Location.inside_of_operand? hl h.onRight
      have hright : right.info.start < right.info.stop :=
        NodeInfo.start_lt_stop (by rw [h.zero.2]; decide)
      -- The zero lies in the child on the right, which is another child than the operator.
      have hapart : operator.info.stop ≤ right.info.start ∨
          right.info.stop ≤ operator.info.start := by
        have hfields := Location.apart_of_childInField? hl hsign hvalue (by decide)
        obtain ⟨hstart, hstop⟩ := hinside
        omega
      obtain ⟨edits, script, hfix, hscript, hedits⟩ :=
        bitwiseZeroFix_assignment ctx left hkind hsign hoperator hright hapart
      rw [if_neg (by simp), if_neg hbar, reported_ofReport _ hfix hscript]
      exact ⟨_, rfl, .assigned h hkind heffect hsign hoperator hright hapart hedits⟩

theorem checkDoubleNot_of {inner target : Location} (hl : l.whole.Nested)
    (h : DoubleComplement ctx.source l inner target) :
    ∃ d, (checkDoubleNot ctx l).reported = [d] ∧ Reports ctx l hl d := by
  have htext := (Idiom.complement h).operatorText_ne_empty
  obtain ⟨edits, script, hfix, hscript, hedits⟩ :=
    doubleNotFix_eq ctx target hl (Location.start_lt_stop_of_operatorText hl htext)
  have hlast : ¬ isBitwiseNot ctx target = true := fun hnot => h.last (isBitwiseNot_iff.mp hnot)
  refine ⟨_, ?_, .doubled h hedits⟩
  simp only [checkDoubleNot, h.argument, h.operand]
  rw [if_pos (isBitwiseNot_iff.mpr h.outer), if_pos (isBitwiseNot_iff.mpr h.again), if_neg hlast,
    reported_ofReport _ hfix hscript]
  rfl

/-! ## Checks that do not match -/

theorem checkBitwiseZero_quiet (hkind : l.kind = "binary_expression" ∨ l.kind = compoundAssignment)
    (h : ¬ Idiom ctx.source l) : (checkBitwiseZero ctx l).reported = [] := by
  simp only [checkBitwiseZero]
  split
  · next left right hleft hright =>
    rw [if_neg]
    · rfl
    · intro hmatch
      rw [Bool.and_eq_true, isZeroLiteral_iff, contains_bare_iff hkind] at hmatch
      exact h (.zero ⟨hmatch.2, hleft, hright, hmatch.1⟩)
  · rfl

theorem checkDoubleNot_quiet (h : ¬ Idiom ctx.source l) :
    (checkDoubleNot ctx l).reported = [] := by
  rw [checkDoubleNot]
  split
  · next houter =>
    split
    · next inner hargument =>
      split
      · next hinner =>
        split
        · next target htarget =>
          split
          · rfl
          · next hlast =>
            refine absurd (.complement ⟨isBitwiseNot_iff.mp houter, hargument,
              isBitwiseNot_iff.mp hinner, htarget, ?_⟩) h
            exact fun hnot => hlast (isBitwiseNot_iff.mpr hnot)
        · rfl
      · rfl
    · rfl
  · rfl

/-! ## The rule -/

theorem reportsAt_operation (hkind : l.kind = "binary_expression" ∨ l.kind = compoundAssignment) :
    truncationRule.reportsAt ctx l = (checkBitwiseZero ctx l).reported := by
  rw [reportsAt]
  rcases hkind with hkind | hkind
  · rw [hkind]
    exact List.append_nil _
  · rw [hkind]
    exact List.append_nil _

theorem reportsAt_unary (hkind : l.kind = "unary_expression") :
    truncationRule.reportsAt ctx l = (checkDoubleNot ctx l).reported := by
  rw [reportsAt, hkind]
  exact List.append_nil _

theorem reportsAt_other
    (hkind : ¬ (l.kind = "binary_expression" ∨ l.kind = compoundAssignment))
    (hunary : l.kind ≠ "unary_expression") : truncationRule.reportsAt ctx l = [] := by
  rw [not_or] at hkind
  have hchecks : truncationRule.checksFor l.kind = [] := by
    simp [checksFor, truncationRule, Ne.symm hkind.1, Ne.symm hkind.2, hunary.symm]
  rw [reportsAt, hchecks]
  rfl

theorem reportsAt_of_idiom (hl : l.whole.Nested) (h : Idiom ctx.source l) :
    ∃ d, truncationRule.reportsAt ctx l = [d] ∧ Reports ctx l hl d := by
  cases h with
  | zero h =>
    rw [reportsAt_operation h.operator.kind]
    exact checkBitwiseZero_of hl h
  | complement h =>
    rw [reportsAt_unary h.outer.1]
    exact checkDoubleNot_of hl h

theorem reportsAt_of_not_idiom (h : ¬ Idiom ctx.source l) :
    truncationRule.reportsAt ctx l = [] := by
  by_cases hkind : l.kind = "binary_expression" ∨ l.kind = compoundAssignment
  · rw [reportsAt_operation hkind]
    exact checkBitwiseZero_quiet hkind h
  · by_cases hunary : l.kind = "unary_expression"
    · rw [reportsAt_unary hunary]
      exact checkDoubleNot_quiet h
    · exact reportsAt_other hkind hunary

/-- Whatever is reported is one of the diagnostics that the rule can make. -/
theorem reports_of_mem_reportsAt {d : Diagnostic} (hl : l.whole.Nested)
    (h : d ∈ truncationRule.reportsAt ctx l) : Reports ctx l hl d := by
  by_cases hidiom : Idiom ctx.source l
  · obtain ⟨d', hone, hreports⟩ := reportsAt_of_idiom hl hidiom
    rw [hone, List.mem_singleton] at h
    rwa [h]
  · rw [reportsAt_of_not_idiom hidiom] at h
    exact absurd h List.not_mem_nil

end TruncIdiom.Rule
