import Mathlib.Data.List.Forall2
import TruncIdiom.Proofs.Lint.Messages
import TruncIdiom.Proofs.Rule.Reports
import TruncIdiom.Proofs.Text.Position
import TruncIdiom.Script.Program

/-!
Linting with the default rule is exact.

`messages_match_idioms`: over a readable source with a nested tree the messages are those of the
idioms, one for each, in the preorder of the tree. The order of the preorder is the order of places
already, so putting the messages in order changes nothing. `Announces` says what the message of an
idiom holds, and which of them come with a fix, with a suggestion, or with neither.
-/

namespace TruncIdiom.Lint

open Text Syntax Rule

/-! ## Lists in step -/

section
variable {α β : Type} {R : α → β → Prop}

/-- Elements that give one result each where a property holds, and none where it does not. -/
theorem forall₂_filter_flatMap {p : α → Prop} [DecidablePred p] {f : α → List β} {xs : List α}
    (hone : ∀ x ∈ xs, p x → ∃ y, f x = [y] ∧ R x y) (hnone : ∀ x ∈ xs, ¬ p x → f x = []) :
    List.Forall₂ R (xs.filter (p ·)) (xs.flatMap f) := by
  induction xs with
  | nil => exact .nil
  | cons x xs ih =>
    have hrest := ih (fun y hy => hone y (List.mem_cons_of_mem x hy))
      fun y hy => hnone y (List.mem_cons_of_mem x hy)
    rw [List.filter_cons, List.flatMap_cons]
    by_cases hx : p x
    · obtain ⟨y, hy, hxy⟩ := hone x List.mem_cons_self hx
      rw [if_pos (decide_eq_true hx), hy]
      exact .cons hxy hrest
    · rw [if_neg (by simpa using hx), hnone x List.mem_cons_self hx]
      exact hrest

theorem pairwise_of_forall₂ {S : α → α → Prop} {T : β → β → Prop} {xs : List α} {ys : List β}
    (h : List.Forall₂ R xs ys) (hxs : xs.Pairwise S)
    (hcarry : ∀ a b x y, S a b → R a x → R b y → T x y) : ys.Pairwise T := by
  induction h with
  | nil => exact .nil
  | cons hab hrest ih =>
    obtain ⟨hfirst, htail⟩ := List.pairwise_cons.mp hxs
    refine List.pairwise_cons.mpr ⟨?_, ih htail⟩
    intro y hy
    obtain ⟨n, hn, rfl⟩ := List.getElem_of_mem hy
    have hlength := hrest.length_eq
    exact hcarry _ _ _ _ (hfirst _ (List.getElem_mem (by omega)))
      hab (hrest.get (by omega) hn)

end

/-! ## The message of an idiom -/

/-- Whether a node is an operation with `|`, which is only ever suggested to be replaced. -/
def Suggested (source : Bytes) (l : Location) : Prop :=
  l.kind = "binary_expression" ∧ l.tree.operatorText source = "|"

/-- Whether a node is an assignment whose target has an effect. -/
def Guarded (source : Bytes) (getters : Bool) (l : Location) : Prop :=
  l.kind = "augmented_assignment_expression" ∧
    ∃ target ∈ l.operand? "left", hasSideEffect source getters target.tree = true

theorem not_suggested_of_guarded {source : Bytes} {getters : Bool} {l : Location}
    (h : Guarded source getters l) : ¬ Suggested source l := by
  rintro ⟨hkind, -⟩
  rw [h.1] at hkind
  exact absurd hkind (by decide)

/-- What the message of an idiom holds. -/
structure Announces (source : Bytes) (config : Config) (l : Location) (m : Message) : Prop where
  ruleId : m.ruleId = some "prefer-math-trunc"
  level : m.level = config.level
  messageId :
    m.messageId = some (if Complement source l then "error-bitwise-not" else "error-bitwise")
  start : m.start = l.info.start
  stop : m.stop = l.info.stop
  position : m.position = .ofOffset source l.info.start
  endPosition : m.endPosition = .ofOffset source l.info.stop
  readable : m.fatal = false
  suggested : Suggested source l → m.fix = none ∧ ∃ proposal, m.suggestions = [proposal]
  guarded : Guarded source config.gettersCount l → m.fix = none ∧ m.suggestions = []
  fixed : ¬ Suggested source l → ¬ Guarded source config.gettersCount l →
    (∃ fix, m.fix = some fix) ∧ m.suggestions = []

section
variable {ctx : CheckContext} {l : Location} {hl : l.whole.Nested} {d : Diagnostic}

theorem node_of_reports (h : Reports ctx l hl d) : d.node = l.info := by
  cases h <;> rfl

theorem messageId_of_reports (h : Reports ctx l hl d) :
    d.messageId = if Complement ctx.source l then doubleNotId else bitwiseZeroId := by
  have hoperation : l.kind = "binary_expression" ∨ l.kind = compoundAssignment →
      ¬ Complement ctx.source l := by
    rintro hkind ⟨hunary, -⟩
    rw [hunary] at hkind
    exact absurd hkind (by decide)
  cases h with
  | doubled idiom _ => rw [if_pos idiom.outer]
  | guarded idiom _ _ => rw [if_neg (hoperation idiom.operator.kind)]
  | assigned idiom _ _ _ _ _ _ _ => rw [if_neg (hoperation idiom.operator.kind)]
  | suggested idiom _ _ _ => rw [if_neg (hoperation idiom.operator.kind)]
  | replaced idiom _ _ _ => rw [if_neg (hoperation idiom.operator.kind)]

theorem remedy_of_reports (h : Reports ctx l hl d) :
    (Suggested ctx.source l ∧ ∃ s, d.remedy = .suggestions s []) ∨
      (Guarded ctx.source ctx.gettersCount l ∧ d.remedy = .none) ∨
      (¬ Suggested ctx.source l ∧ ¬ Guarded ctx.source ctx.gettersCount l ∧
        ∃ script, d.remedy = .fix script) := by
  cases h with
  | suggested _ operates bar _ => exact .inl ⟨⟨operates, bar⟩, _, rfl⟩
  | guarded idiom assigns effect =>
    exact .inr (.inl ⟨⟨assigns, _, idiom.onLeft, effect⟩, rfl⟩)
  | assigned idiom assigns pure _ _ _ _ _ =>
    have hbinary : l.kind ≠ "binary_expression" := by rw [assigns]; decide
    refine .inr (.inr ⟨fun h => hbinary h.1, ?_, _, rfl⟩)
    rintro ⟨-, target, htarget, heffect⟩
    -- The target is the operand on the left, whose effect the check has ruled out.
    rw [idiom.onLeft] at htarget
    obtain rfl := Option.some.inj htarget
    rw [pure] at heffect
    exact absurd heffect (by decide)
  | replaced _ operates other _ =>
    have hassigns : l.kind ≠ compoundAssignment := by rw [operates]; decide
    exact .inr (.inr ⟨fun h => other h.2, fun h => hassigns h.1, _, rfl⟩)
  | doubled idiom _ =>
    have hbinary : l.kind ≠ "binary_expression" := by rw [idiom.outer.1]; decide
    have hassigns : l.kind ≠ compoundAssignment := by rw [idiom.outer.1]; decide
    exact .inr (.inr ⟨fun h => hbinary h.1, fun h => hassigns h.1, _, rfl⟩)

theorem announces_of_reports {source : Bytes} {config : Config}
    (h : Reports ⟨source, config.gettersCount⟩ l hl d) :
    Announces source config l (d.message truncationInfo source config.level) := by
  have hnode := node_of_reports h
  have hid := messageId_of_reports h
  have hremedy := remedy_of_reports h
  obtain ⟨node, messageId, data, remedy⟩ := d
  simp only at hnode hid hremedy
  subst hnode hid
  rcases hremedy with ⟨hsuggested, s, rfl⟩ | ⟨hguarded, rfl⟩ | ⟨hsuggested, hguarded, script, rfl⟩
  · exact ⟨rfl, rfl, rfl, rfl, rfl, rfl, rfl, rfl, fun _ => ⟨rfl, _, rfl⟩,
      fun hguarded => absurd hsuggested (not_suggested_of_guarded hguarded),
      fun hnot _ => absurd hsuggested hnot⟩
  · exact ⟨rfl, rfl, rfl, rfl, rfl, rfl, rfl, rfl,
      fun hsuggested => absurd hsuggested (not_suggested_of_guarded hguarded), fun _ => ⟨rfl, rfl⟩,
      fun _ hnot => absurd hguarded hnot⟩
  · exact ⟨rfl, rfl, rfl, rfl, rfl, rfl, rfl, rfl, fun h => absurd h hsuggested,
      fun h => absurd h hguarded, fun _ _ => ⟨⟨_, rfl⟩, rfl⟩⟩

end

/-! ## The messages of a source -/

section
variable {linter : Linter} {source : Bytes}

theorem found_match_idioms (hrules : linter.rules = defaultRules) {tree : Tree}
    (hnested : tree.Nested) :
    List.Forall₂ (Announces source linter.config)
      ((tree.places []).filter (Idiom source ·)) (linter.found source tree) := by
  rw [found_eq_flatMap hrules]
  refine forall₂_filter_flatMap ?_ ?_
  · intro l hl hidiom
    have hwhole : l.whole.Nested := by rwa [mem_places_iff.mp hl]
    have hidiom : Idiom (linter.context source).source l := hidiom
    obtain ⟨d, hd, hreports⟩ := reportsAt_of_idiom hwhole hidiom
    rw [hd]
    exact ⟨_, rfl, announces_of_reports hreports⟩
  · intro l _ hidiom
    have hquiet : ¬ Idiom (linter.context source).source l := hidiom
    rw [reportsAt_of_not_idiom hquiet]
    rfl

/-- The messages of a readable source are those of its idioms, one for each, in preorder. -/
theorem messages_match_idioms (linter : Linter) (source : Bytes) (path : String)
    (hrules : linter.rules = defaultRules) (henabled : linter.config.severity ≠ .off)
    (herror : (linter.parser source).hasError = false)
    (hnested : (linter.parser source).Nested) :
    (linter.lint source path).messages = linter.found source (linter.parser source) ∧
      List.Forall₂ (Announces source linter.config)
        (((linter.parser source).places []).filter (Idiom source ·))
        (linter.lint source path).messages := by
  have hidioms : List.Forall₂ (Announces source linter.config)
      (((linter.parser source).places []).filter (Idiom source ·))
      (linter.found source (linter.parser source)) := found_match_idioms hrules hnested
  -- The idioms stand in the order of their starts, and positions follow offsets.
  have horder : (linter.found source (linter.parser source)).Pairwise
      (Message.placeLe · · = true) := by
    have hplaces : (((linter.parser source).places []).filter (Idiom source ·)).Pairwise
        fun a b => a.info.start ≤ b.info.start :=
      (Location.pairwise_preorder (l := ⟨linter.parser source, []⟩) hnested).filter _
    refine pairwise_of_forall₂ hidioms hplaces ?_
    intro a b m n hab hm hn
    rw [Message.placeLe, hm.position, hn.position]
    exact ofOffset_le_ofOffset source hab
  have hsorted : linter.messages source = linter.found source (linter.parser source) := by
    rw [messages_of_readable (decide_eq_true henabled) herror, Collection.stableSort_eq_self horder]
  rw [Linter.lint, hsorted]
  exact ⟨rfl, hidioms⟩

end

def scriptLinter : Linter := ⟨Script.parse, defaultRules, .default⟩

/-- An operation, an assignment whose target has an effect, and a double complement. -/
def idioms : Bytes := encode "a|0;f().b|=0;~~c"

/-- The first has a suggestion, the second neither, and the third a fix. -/
theorem messages_of_idioms :
    ((scriptLinter.lint idioms "f").messages.map fun m => (m.start, m.remedyKind)) =
        [(0, .suggestion), (4, .none), (13, .fix)] ∧
      List.Forall₂ (Announces idioms scriptLinter.config)
        (((scriptLinter.parser idioms).places []).filter (Idiom idioms ·))
        (scriptLinter.lint idioms "f").messages := by
  constructor
  · decide +kernel
  · exact (messages_match_idioms scriptLinter idioms "f" rfl (by decide) (by decide +kernel)
      (by decide +kernel)).2

end TruncIdiom.Lint
