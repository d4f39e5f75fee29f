import TruncIdiom.Proofs.Lint.Rerun

/-!
Severities do not steer fixing.

The severity decides whether a source is looked at, and from then on it is only written down in the
messages. Under two severities that are on, the messages stand in step and differ in their levels
alone (`sameButLevel_messages`). A pass reads the fixes of messages and whether one is fatal, so it
does the same under both (`fixPass_atSeverity`), and by induction on the limit so does a run
(`fixPasses_atSeverity`). Under `off` every source is at rest.
-/

namespace TruncIdiom.Lint

open Text Rule

variable {a b : Severity} {linter : Linter}

def Linter.atSeverity (linter : Linter) (severity : Severity) : Linter :=
  { linter with config := { linter.config with severity := severity } }

/-! ## Messages -/

/-- A message under two severities. It is at the level of the severity, or an error when it is
fatal, and the same in all else. -/
structure SameButLevel (a b : Severity) (m m' : Message) : Prop where
  same : { m with level := m'.level } = m'
  level : m.level = if m.fatal then .error else a.level
  level' : m'.level = if m'.fatal then .error else b.level

section
variable {m m' : Message} {ms ms' : List Message}

theorem SameButLevel.fatal_eq (h : SameButLevel a b m m') : m.fatal = m'.fatal := by
  rw [← h.same]

theorem SameButLevel.fix_eq (h : SameButLevel a b m m') : m.fix = m'.fix := by
  rw [← h.same]

theorem SameButLevel.position_eq (h : SameButLevel a b m m') : m.position = m'.position := by
  rw [← h.same]

theorem any_fatal_eq (h : List.Forall₂ (SameButLevel a b) ms ms') :
    ms.any (·.fatal) = ms'.any (·.fatal) := by
  induction h with
  | nil => rfl
  | cons h _ ih => rw [List.any_cons, List.any_cons, h.fatal_eq, ih]

theorem filterMap_fix_eq (h : List.Forall₂ (SameButLevel a b) ms ms') :
    ms.filterMap (·.fix) = ms'.filterMap (·.fix) := by
  induction h with
  | nil => rfl
  | cons h _ ih => rw [List.filterMap_cons, List.filterMap_cons, h.fix_eq, ih]

end

theorem enabled_atSeverity (linter : Linter) (ha : a ≠ .off) :
    (linter.atSeverity a).config.enabled = true :=
  decide_eq_true ha

theorem sameButLevel_messages (linter : Linter) (ha : a ≠ .off) (hb : b ≠ .off)
    (source : Bytes) :
    List.Forall₂ (SameButLevel a b) ((linter.atSeverity a).messages source)
      ((linter.atSeverity b).messages source) := by
  cases herror : (linter.parser source).hasError with
  | true =>
    obtain ⟨node, hnode⟩ := Syntax.exists_firstFault? herror
    have hfatal : ∀ s, s ≠ .off →
        (linter.atSeverity s).messages source = [faultMessage node source] := fun s hs =>
      messages_of_fault (enabled_atSeverity linter hs) hnode
    rw [hfatal a ha, hfatal b hb]
    exact .cons ⟨rfl, rfl, rfl⟩ .nil
  | false =>
    have hsorted : ∀ s, s ≠ .off → (linter.atSeverity s).messages source =
        Collection.stableSort Message.placeLe ((linter.reports source (linter.parser source)).map
          fun r => r.2.message r.1 source s.level) := fun s hs =>
      messages_of_readable (enabled_atSeverity linter hs) herror
    rw [hsorted a ha, hsorted b hb]
    refine Collection.forall₂_stableSort ?_ ?_
    · intro m n m' n' hm hn
      exact congrArg₂ Position.le hm.position_eq hn.position_eq
    · rw [List.forall₂_map_left_iff, List.forall₂_map_right_iff]
      exact List.forall₂_same.mpr fun _ _ => ⟨rfl, rfl, rfl⟩

/-! ## Runs -/

theorem fixPass_atSeverity (linter : Linter) (ha : a ≠ .off) (hb : b ≠ .off) (source : Bytes) :
    (linter.atSeverity a).fixPass source = (linter.atSeverity b).fixPass source := by
  have hmessages := sameButLevel_messages linter ha hb source
  simp only [Linter.fixPass, any_fatal_eq hmessages, filterMap_fix_eq hmessages]
  rfl

theorem fixPasses_atSeverity (linter : Linter) (ha : a ≠ .off) (hb : b ≠ .off) (limit : Nat)
    (p : Progress) :
    (linter.atSeverity a).fixPasses limit p = (linter.atSeverity b).fixPasses limit p := by
  induction limit generalizing p with
  | zero => rfl
  | succ limit ih =>
    rw [Linter.fixPasses, Linter.fixPasses, fixPass_atSeverity linter ha hb]
    cases (linter.atSeverity b).fixPass p.current with
    | nothing => rfl
    | broken => rfl
    | improved output applied => exact ih _

theorem fix_atSeverity {limit : Nat} (hlimit : linter.config.passLimit = .ok limit)
    (severity : Severity) (source : Bytes) (path : String) :
    (linter.atSeverity severity).fix source path =
      .ok ((linter.atSeverity severity).fixedWithin limit source path) :=
  @fix_eq (linter.atSeverity severity) limit hlimit source path

/-- The results of fixing a source under two severities. -/
structure SameResults (a b : Severity) (r r' : FixResult) : Prop where
  path : r.path = r'.path
  output : r.output = r'.output
  fixed : r.fixed = r'.fixed
  applied : r.applied = r'.applied
  passes : r.passes = r'.passes
  messages : List.Forall₂ (SameButLevel a b) r.messages r'.messages

theorem sameResults_fixedWithin (linter : Linter) (ha : a ≠ .off) (hb : b ≠ .off) (limit : Nat)
    (source : Bytes) (path : String) :
    SameResults a b ((linter.atSeverity a).fixedWithin limit source path)
      ((linter.atSeverity b).fixedWithin limit source path) := by
  have hruns := fixPasses_atSeverity linter ha hb limit ⟨source, 0, 0⟩
  have hfinal : (linter.atSeverity a).fixedSource limit source =
      (linter.atSeverity b).fixedSource limit source := congrArg Progress.current hruns
  simp only [Linter.fixedWithin, hfinal, hruns]
  exact ⟨rfl, rfl, rfl, rfl, rfl, sameButLevel_messages linter ha hb _⟩

theorem idle_off (linter : Linter) (source : Bytes) : Idle (linter.atSeverity .off) source := by
  have hnone : (linter.atSeverity .off).messages source = [] := messages_of_disabled rfl
  refine .inr ((applied_eq_zero_iff _ source).mpr ?_)
  rw [hnone]
  exact fun m hm => absurd hm List.not_mem_nil

/-- Under two severities that are on, fixing ends with the same source after as many fixes and
passes, and messages differ in their levels alone. Under `off` every source is left as it is. A
limit that cannot be used is refused under any severity. -/
theorem fix_at_severities (linter : Linter) (source : Bytes) (path : String) :
    (∀ a b, a ≠ .off → b ≠ .off →
      List.Forall₂ (SameButLevel a b) ((linter.atSeverity a).lint source path).messages
          ((linter.atSeverity b).lint source path).messages ∧
        ∀ limit, linter.config.passLimit = .ok limit → ∃ r r',
          (linter.atSeverity a).fix source path = .ok r ∧
          (linter.atSeverity b).fix source path = .ok r' ∧
          SameResults a b r r' ∧
          (linter.atSeverity a).fixedSource limit source =
            (linter.atSeverity b).fixedSource limit source) ∧
    ((linter.atSeverity .off).lint source path = ⟨path, []⟩ ∧
      ∀ limit, linter.config.passLimit = .ok limit →
        (linter.atSeverity .off).fixedSource limit source = source ∧
        (linter.atSeverity .off).fix source path = .ok
          { path := path, output := decode source, fixed := false, applied := 0, passes := 0
            messages := [] }) ∧
    ∀ severity e, linter.config.passLimit = .error e →
      (linter.atSeverity severity).fix source path = .error e := by
  refine ⟨?_, ?_, ?_⟩
  · intro a b ha hb
    refine ⟨sameButLevel_messages linter ha hb source, ?_⟩
    intro limit hlimit
    exact ⟨_, _, fix_atSeverity hlimit a source path, fix_atSeverity hlimit b source path,
      sameResults_fixedWithin linter ha hb limit source path,
      congrArg Progress.current (fixPasses_atSeverity linter ha hb limit ⟨source, 0, 0⟩)⟩
  · have hnone : (linter.atSeverity .off).messages source = [] := messages_of_disabled rfl
    refine ⟨congrArg (LintResult.mk path) hnone, ?_⟩
    intro limit hlimit
    refine ⟨(idle_off linter source).fixedSource_eq limit, ?_⟩
    rw [fix_atSeverity hlimit, (idle_off linter source).fixedWithin_eq, hnone]
  · intro severity e he
    have hlimit : (linter.atSeverity severity).config.passLimit = .error e := he
    rw [Linter.fix, hlimit]
    rfl

/-- A double complement is fixed as a warning and as an error. A source that cannot be read is left
as it is under `off`. -/
theorem fix_at_severities_complement :
    (∃ r r', (scriptLinter.atSeverity .warn).fix complement "f" = .ok r ∧
      (scriptLinter.atSeverity .error).fix complement "f" = .ok r' ∧
      SameResults .warn .error r r' ∧ r.applied = 1 ∧ r.messages.map (·.level) = [.warning]) ∧
    (Script.parse (encode "~~(")).hasError = true ∧
      (scriptLinter.atSeverity .off).fix (encode "~~(") "f" = .ok
        { path := "f", output := "~~(", fixed := false, applied := 0, passes := 0
          messages := [] } := by
  have hlimit : scriptLinter.config.passLimit = .ok 10 := rfl
  constructor
  · have hwarned : ((scriptLinter.atSeverity .warn).fix complement "f").toOption.map
        (fun r => (r.applied, r.messages.map (·.level))) = some (1, [.warning]) := by
      decide +kernel
    obtain ⟨-, hfix⟩ := (fix_at_severities scriptLinter complement "f").1 .warn .error
      (by decide) (by decide)
    obtain ⟨r, r', hr, hr', hsame, -⟩ := hfix 10 hlimit
    rw [hr] at hwarned
    obtain ⟨happlied, hlevels⟩ := Prod.mk.inj (Option.some.inj hwarned)
    exact ⟨r, r', hr, hr', hsame, happlied, hlevels⟩
  · have hdecoded : decode (encode "~~(") = "~~(" := by decide +kernel
    obtain ⟨-, ⟨-, hoff⟩, -⟩ := fix_at_severities scriptLinter (encode "~~(") "f"
    refine ⟨by decide +kernel, ?_⟩
    rw [(hoff 10 hlimit).2, hdecoded]

end TruncIdiom.Lint
