import TruncIdiom.Proofs.Lint.Messages
import TruncIdiom.Proofs.Syntax.Fault

/-!
Errors anywhere in a tree stop a lint, and nothing else does.

`errors_stop_lint`: a source whose tree has a faulty node gets one fatal message at the node that
the tree blames, and gets it whatever the rules are, so no check has a say. A source without a
faulty node gets what its checks find, and no fatal message.
-/

namespace TruncIdiom.Lint

open Text Syntax Rule

/-- A message that says that a source cannot be read, at the start of a node. -/
structure RefusedAt (source : Bytes) (node : NodeInfo) (m : Message) : Prop where
  fatal : m.fatal = true
  ruleId : m.ruleId = none
  start : m.start = node.start
  position : m.position = .ofOffset source node.start
  endPosition : m.endPosition = m.position
  remedy : m.fix = none ∧ m.suggestions = []

theorem refusedAt_faultMessage (source : Bytes) (node : NodeInfo) :
    RefusedAt source node (faultMessage node source) :=
  ⟨rfl, rfl, rfl, rfl, rfl, rfl, rfl⟩

variable {linter : Linter} {source : Bytes}

theorem messages_perm_found (henabled : linter.config.enabled = true)
    (herror : (linter.parser source).hasError = false) :
    (linter.messages source).Perm (linter.found source (linter.parser source)) := by
  rw [messages_of_readable henabled herror]
  exact Collection.stableSort_perm _

/-- A source whose tree has a faulty node gets one fatal message at the node that the tree blames,
whatever the rules are. Any other source gets what the checks find. -/
theorem errors_stop_lint (linter : Linter) (source : Bytes) (path : String)
    (henabled : linter.config.severity ≠ .off) :
    ((∃ u ∈ (linter.parser source).preorder, u.Faulty) →
      ∃ u m, (linter.parser source).Blames u ∧ RefusedAt source u.info m ∧
        (linter.lint source path).messages = [m] ∧
        ∀ rules, ({ linter with rules := rules }.lint source path).messages = [m]) ∧
    ((∀ u ∈ (linter.parser source).preorder, ¬ u.Faulty) →
      (linter.lint source path).messages.Perm (linter.found source (linter.parser source)) ∧
        ∀ m ∈ (linter.lint source path).messages, m.fatal = false) := by
  have henabled : linter.config.enabled = true := decide_eq_true henabled
  constructor
  · intro hfaulty
    obtain ⟨u, hblames, hblamed⟩ := Tree.exists_blames ((Tree.hasError_iff _).mpr hfaulty)
    -- The rules are not asked, so they may as well be others.
    have hmessages : ∀ rules, { linter with rules := rules }.messages source =
        [faultMessage u.info source] := fun rules =>
      messages_of_fault henabled hblamed
    exact ⟨u, _, hblames, refusedAt_faultMessage source u.info, hmessages linter.rules, hmessages⟩
  · intro hsound
    have herror : (linter.parser source).hasError = false := by
      rw [← Bool.not_eq_true, Tree.hasError_iff]
      rintro ⟨u, hu, hfaulty⟩
      exact hsound u hu hfaulty
    exact ⟨messages_perm_found henabled herror, not_fatal_of_not_hasError herror⟩

/-- A tree that is flagged at the top. Deep in its first statement an operand is missing, and after
that statement stands an error node. -/
def tornTree : Tree :=
  .node ⟨"program", 0, 12, true, false, none, true⟩ [
    .node ⟨"expression_statement", 0, 6, true, false, none, false⟩ [
      .node ⟨"binary_expression", 0, 4, true, false, none, false⟩ [
        .node ⟨"identifier", 0, 1, true, false, some "left", false⟩ [],
        .node ⟨">>", 2, 4, false, false, some "operator", false⟩ [],
        .node ⟨"identifier", 4, 4, true, true, some "right", false⟩ []],
      .node ⟨";", 5, 6, false, false, none, false⟩ []],
    .node ⟨"ERROR", 7, 11, true, false, none, false⟩ []]

/-- The missing operand is blamed, for it comes first in preorder. -/
theorem errors_stop_lint_torn :
    let linter : Linter := ⟨fun _ => tornTree, defaultRules, .default⟩
    let source := encode "a >> ; ~)~x;"
    ((linter.lint source "f").messages.map fun m => (m.start, m.text)) =
        [(4, "Parsing error: Missing `identifier`")] ∧
      ∃ u m, tornTree.Blames u ∧ RefusedAt source u.info m ∧
        (linter.lint source "f").messages = [m] ∧
        ∀ rules, ({ linter with rules := rules }.lint source "f").messages = [m] := by
  intro linter source
  constructor
  · decide +kernel
  · exact (errors_stop_lint linter source "f" (by decide)).1 (by decide +kernel)

end TruncIdiom.Lint
