import TruncIdiom.Proofs.Lint.Exactness
import TruncIdiom.Proofs.Lint.RuleIndependence
import TruncIdiom.Proofs.Rule.EffectSearch

/-!
Counting getters takes fixes away and does nothing else.

The setting on getters is read in one place: where an assignment is checked for an effect in its
target. Counting more finds no effect less (`hasSideEffect_of_withoutGetters`), so the only places
that are reported differently are the assignments that are `GuardedByGetters`, and there a fix is
lost. `getters_take_fixes` says so of all messages of the default rule, which stand in step under
the two settings.
-/

namespace TruncIdiom

open Text Syntax Rule Json

def Rule.Message.withoutFix (m : Message) : Message := { m with fix := none }

namespace Lint

variable {source : Bytes} {l : Location}

/-! ## One place -/

/-- Whether a node is an assignment whose target has an effect only when getters count. -/
def GuardedByGetters (source : Bytes) (l : Location) : Prop :=
  Guarded source true l ∧ ¬ Guarded source false l

theorem guarded_iff (h : ¬ GuardedByGetters source l) (getters : Bool) :
    Guarded source getters l ↔ Guarded source true l := by
  cases getters with
  | true => exact Iff.rfl
  | false =>
    constructor
    · rintro ⟨hkind, target, htarget, heffect⟩
      exact ⟨hkind, target, htarget, hasSideEffect_of_withoutGetters heffect⟩
    · intro htrue
      by_contra hfalse
      exact h ⟨htrue, hfalse⟩

theorem reportsAt_eq_of_not_guardedByGetters (h : ¬ GuardedByGetters source l) (getters : Bool) :
    truncationRule.reportsAt ⟨source, getters⟩ l = truncationRule.reportsAt ⟨source, true⟩ l := by
  by_cases hidiom : Idiom source l
  · cases hidiom with
    | complement hdouble =>
      -- A double complement is checked without the setting.
      rw [reportsAt_unary hdouble.outer.1, reportsAt_unary hdouble.outer.1]
      rfl
    | @zero left right hzero =>
      have hreports : ∀ getters, truncationRule.reportsAt ⟨source, getters⟩ l =
          (checkBitwiseZero ⟨source, getters⟩ l).reported := fun getters =>
        reportsAt_operation (@Truncates.kind ⟨source, getters⟩ l hzero.operator)
      have hguard : ∀ getters, (l.kind = compoundAssignment ∧
          hasSideEffect source getters left.tree = true) ↔ Guarded source getters l := by
        intro getters
        rw [Guarded, hzero.onLeft]
        simp [compoundAssignment]
      have hsame := (hguard getters).trans ((guarded_iff h getters).trans (hguard true).symm)
      rw [hreports, hreports, @checkBitwiseZero_eq ⟨source, getters⟩ l left right hzero,
        @checkBitwiseZero_eq ⟨source, true⟩ l left right hzero]
      simp only [hsame]
      rfl
  · rw [@reportsAt_of_not_idiom ⟨source, getters⟩ l hidiom,
      @reportsAt_of_not_idiom ⟨source, true⟩ l hidiom]

/-- A diagnostic of an assignment differs from others of it in its remedy only. -/
theorem eq_of_reports_of_assigns {ctx : CheckContext} {hl : l.whole.Nested} {d : Diagnostic}
    (hkind : l.kind = compoundAssignment) (h : Reports ctx l hl d) :
    d = ⟨l.info, bitwiseZeroId, zeroData ctx.source l, d.remedy⟩ := by
  cases h with
  | doubled idiom _ =>
    have hunary := idiom.outer.1
    rw [hkind] at hunary
    exact absurd hunary (by decide)
  | guarded | assigned | suggested | replaced => rfl

/-- The report of an assignment that is guarded by getters loses its fix. -/
theorem reportsAt_of_guardedByGetters (hl : l.whole.Nested) (h : GuardedByGetters source l)
    (hidiom : Idiom source l) :
    ∃ script,
      truncationRule.reportsAt ⟨source, false⟩ l =
        [⟨l.info, bitwiseZeroId, zeroData source l, .fix script⟩] ∧
      truncationRule.reportsAt ⟨source, true⟩ l =
        [⟨l.info, bitwiseZeroId, zeroData source l, .none⟩] := by
  obtain ⟨hguarded, hopen⟩ := h
  have hkind : l.kind = compoundAssignment := hguarded.1
  have hsuggested : ¬ Suggested source l := not_suggested_of_guarded hguarded
  obtain ⟨d, hone, hreports⟩ := @reportsAt_of_idiom ⟨source, false⟩ l hl hidiom
  obtain ⟨d', hone', hreports'⟩ := @reportsAt_of_idiom ⟨source, true⟩ l hl hidiom
  obtain ⟨script, hfix⟩ : ∃ script, d.remedy = .fix script := by
    rcases remedy_of_reports hreports with ⟨h, -⟩ | ⟨h, -⟩ | ⟨-, -, hfix⟩
    · exact absurd h hsuggested
    · exact absurd h hopen
    · exact hfix
  have hnone : d'.remedy = .none := by
    rcases remedy_of_reports hreports' with ⟨h, -⟩ | ⟨-, hnone⟩ | ⟨-, h, -⟩
    · exact absurd h hsuggested
    · exact hnone
    · exact absurd hguarded h
  refine ⟨script, ?_, ?_⟩
  · rw [hone, eq_of_reports_of_assigns hkind hreports, hfix]
  · rw [hone', eq_of_reports_of_assigns hkind hreports', hnone]

/-! ## Two linters -/

def Linter.withGetters (linter : Linter) (value : Value) : Linter :=
  { linter with config := { linter.config with considerGetters := value } }

/-- The messages that two linters have for one place, when getters count for the second alone: they
agree in all but the fix, which is taken away exactly where the place is guarded by getters. -/
structure FixTaken (before after : Linter) (source : Bytes) (l : Location) (m m' : Message) :
    Prop where
  reported : m ∈ before.messagesAt source l truncationRule
  reported' : m' ∈ after.messagesAt source l truncationRule
  same : m.withoutFix = m'.withoutFix
  differ_iff : m ≠ m' ↔ GuardedByGetters source l
  taken : m ≠ m' → m.fix.isSome = true ∧ m'.fix = none
  gains : m'.fix.isSome = true → m = m'
  others : l.kind ≠ "augmented_assignment_expression" → m = m'

section
variable {before after : Linter} {m m' : Message}

theorem fixTaken_self (h : ¬ GuardedByGetters source l)
    (hm : m ∈ before.messagesAt source l truncationRule)
    (hm' : m ∈ after.messagesAt source l truncationRule) : FixTaken before after source l m m where
  reported := hm
  reported' := hm'
  same := rfl
  differ_iff := iff_of_false (fun hne => hne rfl) h
  taken hne := absurd rfl hne
  gains _ := rfl
  others _ := rfl

theorem fixTaken_of_guardedByGetters (h : GuardedByGetters source l)
    (hm : m ∈ before.messagesAt source l truncationRule)
    (hm' : m' ∈ after.messagesAt source l truncationRule)
    (hsame : m.withoutFix = m'.withoutFix) (hfix : m.fix.isSome = true)
    (hnone : m'.fix = none) : FixTaken before after source l m m' where
  reported := hm
  reported' := hm'
  same := hsame
  differ_iff := by
    refine iff_of_true ?_ h
    rintro rfl
    rw [hnone] at hfix
    cases hfix
  taken _ := ⟨hfix, hnone⟩
  gains hgain := by
    rw [hnone] at hgain
    cases hgain
  others hkind := absurd h.1.1 hkind

theorem FixTaken.placeLe_eq {l' : Location} {n n' : Message}
    (h : FixTaken before after source l m m') (h' : FixTaken before after source l' n n') :
    Message.placeLe m n = Message.placeLe m' n' := by
  have hm : m.withoutFix.position = m'.withoutFix.position := by rw [h.same]
  have hn : n.withoutFix.position = n'.withoutFix.position := by rw [h'.same]
  exact congrArg₂ Position.le hm hn

end

section
variable {linter : Linter} {v w : Value}

theorem messagesAt_withGetters (linter : Linter) (value : Value) (source : Bytes) (l : Location) :
    (linter.withGetters value).messagesAt source l truncationRule =
      (truncationRule.reportsAt ⟨source, value.truthy⟩ l).map
        (·.message truncationInfo source linter.config.level) :=
  rfl

theorem fixTaken_messagesAt (linter : Linter) (hl : l.whole.Nested) (hv : v.truthy = false)
    (hw : w.truthy = true) :
    List.Forall₂ (FixTaken (linter.withGetters v) (linter.withGetters w) source l)
      ((linter.withGetters v).messagesAt source l truncationRule)
      ((linter.withGetters w).messagesAt source l truncationRule) := by
  have hbefore := messagesAt_withGetters linter v source l
  have hafter := messagesAt_withGetters linter w source l
  rw [hv] at hbefore
  rw [hw] at hafter
  by_cases hguarded : GuardedByGetters source l
  · by_cases hidiom : Idiom source l
    · obtain ⟨script, hreports, hreports'⟩ := reportsAt_of_guardedByGetters hl hguarded hidiom
      rw [hreports, List.map_singleton] at hbefore
      rw [hreports', List.map_singleton] at hafter
      have hm := hbefore ▸ List.mem_singleton_self _
      have hm' := hafter ▸ List.mem_singleton_self _
      rw [hbefore, hafter]
      exact .cons (fixTaken_of_guardedByGetters hguarded hm hm' rfl rfl rfl) .nil
    · rw [@reportsAt_of_not_idiom ⟨source, false⟩ l hidiom] at hbefore
      rw [@reportsAt_of_not_idiom ⟨source, true⟩ l hidiom] at hafter
      rw [hbefore, hafter]
      exact .nil
  · have hsame : (linter.withGetters v).messagesAt source l truncationRule =
        (linter.withGetters w).messagesAt source l truncationRule := by
      rw [hbefore, hafter, reportsAt_eq_of_not_guardedByGetters hguarded]
    rw [hsame]
    exact List.forall₂_same.mpr fun m hm => fixTaken_self hguarded (hsame ▸ hm) hm

theorem found_withGetters (linter : Linter) (hrules : linter.rules = defaultRules) (value : Value)
    (source : Bytes) (tree : Tree) :
    (linter.withGetters value).found source tree = (tree.places []).flatMap fun l =>
      (linter.withGetters value).messagesAt source l truncationRule :=
  @found_eq_flatMap (linter.withGetters value) source hrules tree

theorem fixTaken_found (linter : Linter) (hrules : linter.rules = defaultRules) {tree : Tree}
    (hnested : tree.Nested) (hv : v.truthy = false) (hw : w.truthy = true) :
    List.Forall₂
      (fun m m' => ∃ l ∈ tree.places [],
        FixTaken (linter.withGetters v) (linter.withGetters w) source l m m')
      ((linter.withGetters v).found source tree) ((linter.withGetters w).found source tree) := by
  rw [found_withGetters linter hrules, found_withGetters linter hrules]
  have hplaces : List.Forall₂ (fun l l' => l = l' ∧ l ∈ tree.places []) (tree.places [])
      (tree.places []) := List.forall₂_same.mpr fun l hl => ⟨rfl, hl⟩
  refine List.rel_flatMap hplaces ?_
  rintro l _ ⟨rfl, hl⟩
  have hwhole : l.whole.Nested := by rwa [mem_places_iff.mp hl]
  exact (fixTaken_messagesAt linter hwhole hv hw).imp fun m m' htaken => ⟨l, hl, htaken⟩

theorem messages_withGetters_congr (linter : Linter) (source : Bytes) (h : v.truthy = w.truthy) :
    (linter.withGetters v).messages source = (linter.withGetters w).messages source := by
  have hcontext : (linter.withGetters v).context source = (linter.withGetters w).context source :=
    congrArg (CheckContext.mk source) h
  have hreports :
      (linter.withGetters v).reportsAt source = (linter.withGetters w).reportsAt source := by
    funext l
    rw [Linter.reportsAt, Linter.reportsAt, hcontext]
    rfl
  rw [Linter.messages, Linter.messages]
  simp only [Linter.found, Linter.reports, hreports]
  rfl

/-- Of two linters that differ in the setting on getters alone, the one that counts them has the
same messages, one for one, without the fixes of the assignments that are guarded by getters. -/
theorem getters_take_fixes (linter : Linter) (source : Bytes) (path : String)
    (hrules : linter.rules = defaultRules) (herror : (linter.parser source).hasError = false)
    (hnested : (linter.parser source).Nested) :
    (∀ v w, v.truthy = w.truthy →
      ((linter.withGetters v).lint source path).messages =
        ((linter.withGetters w).lint source path).messages) ∧
    ∀ v w, v.truthy = false → w.truthy = true →
      List.Forall₂
        (fun m m' => ∃ l ∈ (linter.parser source).places [],
          FixTaken (linter.withGetters v) (linter.withGetters w) source l m m')
        ((linter.withGetters v).lint source path).messages
        ((linter.withGetters w).lint source path).messages := by
  constructor
  · intro v w hvw
    exact messages_withGetters_congr linter source hvw
  · intro v w hv hw
    rw [Linter.lint, Linter.lint]
    cases henabled : linter.config.enabled with
    | false =>
      have hnone : ∀ value, (linter.withGetters value).messages source = [] := fun _ =>
        messages_of_disabled henabled
      rw [hnone, hnone]
      exact .nil
    | true =>
      have hsorted : ∀ value, (linter.withGetters value).messages source =
          Collection.stableSort Message.placeLe
            ((linter.withGetters value).found source (linter.parser source)) := fun _ =>
        messages_of_readable henabled herror
      rw [hsorted, hsorted]
      refine Collection.forall₂_stableSort ?_ (fixTaken_found linter hrules hnested hv hw)
      rintro a b x y ⟨l, -, hax⟩ ⟨l', -, hby⟩
      exact hax.placeLe_eq hby

end

/-- An assignment to a property, an assignment to a name and an operation. -/
def assignments : Bytes := encode "a.b>>=0;c>>=0;d|0"

/-- With getters counted the first loses its fix, and the others stand as they were. -/
theorem getters_take_fixes_assignments :
    let before := scriptLinter.withGetters (.bool false)
    let after := scriptLinter.withGetters (.bool true)
    (before.lint assignments "f").messages.map (·.remedyKind) = [.fix, .fix, .suggestion] ∧
      (after.lint assignments "f").messages.map (·.remedyKind) = [.none, .fix, .suggestion] ∧
      List.Forall₂
        (fun m m' => ∃ l ∈ (Script.parse assignments).places [],
          FixTaken before after assignments l m m')
        (before.lint assignments "f").messages (after.lint assignments "f").messages := by
  intro before after
  refine ⟨by decide +kernel, by decide +kernel, ?_⟩
  exact (getters_take_fixes scriptLinter assignments "f" rfl (by decide +kernel)
    (by decide +kernel)).2 _ _ rfl rfl

end Lint

end TruncIdiom
