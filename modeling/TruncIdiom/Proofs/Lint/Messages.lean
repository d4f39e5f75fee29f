import TruncIdiom.Lint.Linting
import TruncIdiom.Proofs.Collection.StableSort
import TruncIdiom.Proofs.Syntax.Tree
import TruncIdiom.Proofs.Syntax.Walk

/-!
Which messages a source gets.

Either nothing is reported at all, or the source cannot be read and one fatal message says so, or
the messages are what the checks found, in order. What the default rule finds is found place by
place in the preorder of the tree.
-/

namespace TruncIdiom.Lint

open Text Syntax Rule

variable {linter : Linter} {source : Bytes}

theorem messages_of_disabled (henabled : linter.config.enabled = false) :
    linter.messages source = [] := by
  rw [Linter.messages, henabled]
  rfl

theorem messages_of_fault {node : NodeInfo} (henabled : linter.config.enabled = true)
    (hnode : (linter.parser source).firstFault? = some node) :
    linter.messages source = [faultMessage node source] := by
  simp only [Linter.messages, henabled, if_true, hnode]

theorem messages_of_hasError (henabled : linter.config.enabled = true)
    (herror : (linter.parser source).hasError = true) :
    ∃ node, linter.messages source = [faultMessage node source] := by
  obtain ⟨node, hnode⟩ := exists_firstFault? herror
  exact ⟨node, messages_of_fault henabled hnode⟩

theorem messages_of_readable (henabled : linter.config.enabled = true)
    (herror : (linter.parser source).hasError = false) :
    linter.messages source = Collection.stableSort Message.placeLe
      (linter.found source (linter.parser source)) := by
  rw [Linter.messages, if_pos henabled]
  simp only [firstFault?_eq_none.mpr herror]

theorem mem_messages {m : Message} (h : m ∈ linter.messages source) :
    ((linter.parser source).hasError = true ∧ ∃ node, m = faultMessage node source) ∨
      m ∈ linter.found source (linter.parser source) := by
  cases henabled : linter.config.enabled with
  | false =>
    rw [messages_of_disabled henabled] at h
    cases h
  | true =>
    cases herror : (linter.parser source).hasError with
    | true =>
      obtain ⟨node, hmessages⟩ := messages_of_hasError henabled herror
      rw [hmessages] at h
      exact .inl ⟨rfl, node, List.mem_singleton.mp h⟩
    | false =>
      rw [messages_of_readable henabled herror] at h
      exact .inr (Collection.mem_stableSort.mp h)

theorem position_of_mem {m : Message} (h : m ∈ linter.messages source) :
    m.position = .ofOffset source m.start := by
  rcases mem_messages h with ⟨-, node, rfl⟩ | hfound
  · rfl
  · obtain ⟨⟨info, d⟩, -, rfl⟩ := List.mem_map.mp hfound
    rfl

/-- Only a source that cannot be read gets a fatal message. -/
theorem not_fatal_of_not_hasError (herror : (linter.parser source).hasError = false) :
    ∀ m ∈ linter.messages source, m.fatal = false := by
  intro m hm
  rcases mem_messages hm with ⟨herror', -⟩ | hfound
  · rw [herror] at herror'
    cases herror'
  · obtain ⟨⟨info, d⟩, -, rfl⟩ := List.mem_map.mp hfound
    rfl

/-- A source gets no fatal message exactly when it can be read, or is not looked at. -/
theorem forall_not_fatal_iff :
    (∀ m ∈ linter.messages source, m.fatal = false) ↔
      (linter.config.enabled = true → (linter.parser source).hasError = false) := by
  constructor
  · intro h henabled
    cases herror : (linter.parser source).hasError with
    | false => rfl
    | true =>
      obtain ⟨node, hmessages⟩ := messages_of_hasError henabled herror
      have hfatal := h _ (hmessages ▸ List.mem_singleton_self _)
      cases hfatal
  · intro h
    cases henabled : linter.config.enabled with
    | false =>
      rw [messages_of_disabled henabled]
      exact fun m hm => absurd hm List.not_mem_nil
    | true => exact not_fatal_of_not_hasError (h henabled)

theorem readable_of_mem {m : Message} (h : m ∈ linter.messages source) (hfatal : m.fatal = false) :
    linter.config.enabled = true ∧ (linter.parser source).hasError = false := by
  cases henabled : linter.config.enabled with
  | false =>
    rw [messages_of_disabled henabled] at h
    cases h
  | true =>
    cases herror : (linter.parser source).hasError with
    | true =>
      obtain ⟨node, hmessages⟩ := messages_of_hasError henabled herror
      rw [hmessages, List.mem_singleton] at h
      rw [h] at hfatal
      cases hfatal
    | false => exact ⟨rfl, rfl⟩

theorem messages_of_fatal {m : Message} (h : m ∈ linter.messages source) (hfatal : m.fatal = true) :
    ∃ node, linter.messages source = [faultMessage node source] := by
  cases henabled : linter.config.enabled with
  | false =>
    rw [messages_of_disabled henabled] at h
    cases h
  | true =>
    cases herror : (linter.parser source).hasError with
    | true => exact messages_of_hasError henabled herror
    | false =>
      rw [not_fatal_of_not_hasError herror m h] at hfatal
      cases hfatal

theorem found_eq_flatMap (hrules : linter.rules = defaultRules) (tree : Tree) :
    linter.found source tree = (tree.places []).flatMap fun l =>
      (truncationRule.reportsAt (linter.context source) l).map
        (·.message truncationInfo source linter.config.level) := by
  rw [Linter.found, Linter.reports, walk_eq_preorder, List.map_flatMap]
  congr 1
  funext l
  rw [Linter.reportsAt, hrules, defaultRules, List.flatMap_singleton, List.map_map]
  rfl

end TruncIdiom.Lint
