import TruncIdiom.Proofs.Lint.Exactness
import TruncIdiom.Proofs.Lint.Passes
import TruncIdiom.Proofs.Rule.WholeScripts

/-!
Fixing again what fixing left.

A run of passes may be cut in two: `fix_in_two_runs` says that the second run ends where the whole
run ends, with the same messages and as many fixes applied between them. Only a pass that is dropped
shows where the run was cut, for the second run tries it once more. `fix_again_of_early_stop` says
that a run which stops below its limit, and not for a dropped pass, has come to rest: no message has
a fix, and fixing again does nothing. This holds because a pass applies nothing only when there is
nothing to apply (`applied_eq_zero_iff`), however the fixes overlap.
-/

namespace TruncIdiom.Lint

open Text Rule

variable {linter : Linter} {source output final : Bytes} {applied limit : Nat}

/-! ## Limits -/

def Linter.withLimit (linter : Linter) (limit : Nat) : Linter :=
  { linter with config := { linter.config with maxFixPasses := .int limit } }

def Linter.fixedSource (linter : Linter) (limit : Nat) (source : Bytes) : Bytes :=
  (linter.fixPasses limit ⟨source, 0, 0⟩).current

def Linter.fixedWithin (linter : Linter) (limit : Nat) (source : Bytes) (path : String) :
    FixResult where
  path := path
  output := decode (linter.fixedSource limit source)
  fixed := linter.fixedSource limit source ≠ source
  applied := (linter.fixPasses limit ⟨source, 0, 0⟩).applied
  passes := (linter.fixPasses limit ⟨source, 0, 0⟩).passes
  messages := linter.messages (linter.fixedSource limit source)

theorem fix_eq (hlimit : linter.config.passLimit = .ok limit) (source : Bytes) (path : String) :
    linter.fix source path = .ok (linter.fixedWithin limit source path) := by
  rw [Linter.fix, hlimit]
  rfl

theorem fixPasses_withLimit (linter : Linter) (limit passes : Nat) (p : Progress) :
    (linter.withLimit limit).fixPasses passes p = linter.fixPasses passes p := by
  induction passes generalizing p with
  | zero => rfl
  | succ passes ih =>
    have hpass : (linter.withLimit limit).fixPass p.current = linter.fixPass p.current := rfl
    rw [Linter.fixPasses, Linter.fixPasses, hpass]
    cases linter.fixPass p.current with
    | nothing => rfl
    | broken => rfl
    | improved output applied => exact ih _

theorem fix_withLimit (linter : Linter) (limit : Nat) (source : Bytes) (path : String) :
    (linter.withLimit limit).fix source path = .ok (linter.fixedWithin limit source path) := by
  have hlimit : (linter.withLimit limit).config.passLimit = .ok limit := rfl
  rw [fix_eq hlimit, Linter.fixedWithin, Linter.fixedSource, fixPasses_withLimit]
  rfl

/-! ## Where a run stands still -/

theorem Idle.fixPass_eq (h : Idle linter source) : linter.fixPass source = .nothing := by
  rcases fixPass_cases linter source with ⟨hpass, -⟩ | ⟨output, applied, hchanges, -⟩
  · exact hpass
  · rcases h with ⟨m, hm, hfatal⟩ | hnone
    · rw [hchanges.readable m hm] at hfatal
      cases hfatal
    · rw [hchanges.applies] at hnone
      exact absurd hnone hchanges.some_applied

theorem Changes.fixPass_eq (h : Changes linter source output applied) :
    linter.fixPass source =
      if (linter.parser output).hasError then .broken else .improved output applied := by
  have hfatal : (linter.messages source).any (·.fatal) = false := by simpa using h.readable
  have happly := h.applies
  rw [Linter.fixesOf] at happly
  simp [Linter.fixPass, hfatal, happly, h.some_applied, Linter.rejects, Syntax.isSome_firstFault?]

theorem Idle.fixPasses_eq {p : Progress} (h : Idle linter p.current) (passes : Nat) :
    linter.fixPasses passes p = p := by
  cases passes with
  | zero => rfl
  | succ passes => rw [Linter.fixPasses, h.fixPass_eq]

/-- A run up to a limit ends in a pass that is dropped. -/
def Drops (linter : Linter) (limit : Nat) (source : Bytes) : Prop :=
  ∃ counts final, Kept linter source counts final ∧ counts.length < limit ∧
    ∃ output applied, Changes linter final output applied ∧ (linter.parser output).hasError = true

/-- Passes that are kept, and then one that is dropped: the run is over, whatever its limit. -/
theorem Kept.fixPasses_of_dropped {counts : List Nat} (h : Kept linter source counts final)
    (hchanges : Changes linter final output applied)
    (herror : (linter.parser output).hasError = true)
    (hlimit : counts.length < limit) (a k : Nat) :
    linter.fixPasses limit ⟨source, a, k⟩ =
      ⟨final, a + counts.sum, k + counts.length + 1⟩ := by
  induction h generalizing limit a k with
  | start source =>
    obtain ⟨limit, rfl⟩ : ∃ n, limit = n + 1 := ⟨limit - 1, by simp at hlimit; omega⟩
    rw [Linter.fixPasses, hchanges.fixPass_eq, if_pos herror]
    simp
  | pass hfirst hsound _ ih =>
    obtain ⟨limit, rfl⟩ : ∃ n, limit = n + 1 := ⟨limit - 1, by omega⟩
    rw [List.length_cons] at hlimit
    rw [Linter.fixPasses, hfirst.fixPass_eq, if_neg (by simp [hsound])]
    simp only [ih hchanges (Nat.lt_of_succ_lt_succ hlimit), List.sum_cons, List.length_cons]
    congr 1 <;> omega

theorem Drops.fixPass_eq (h : Drops linter limit source) :
    linter.fixPass (linter.fixedSource limit source) = .broken := by
  obtain ⟨counts, final, hkept, hlt, output, applied, hchanges, herror⟩ := h
  rw [Linter.fixedSource, hkept.fixPasses_of_dropped hchanges herror hlt, hchanges.fixPass_eq,
    if_pos herror]

/-! ## A run cut in two -/

theorem fixPasses_from (linter : Linter) (limit : Nat) (p : Progress) :
    linter.fixPasses limit p =
      ⟨linter.fixedSource limit p.current,
        p.applied + (linter.fixPasses limit ⟨p.current, 0, 0⟩).applied,
        p.passes + (linter.fixPasses limit ⟨p.current, 0, 0⟩).passes⟩ := by
  induction limit generalizing p with
  | zero => rfl
  | succ limit ih =>
    simp only [Linter.fixedSource, Linter.fixPasses]
    cases linter.fixPass p.current with
    | nothing => rfl
    | broken => simp
    | improved output applied =>
      simp only
      rw [ih ⟨output, p.applied + applied, p.passes + 1⟩, ih ⟨output, 0 + applied, 0 + 1⟩]
      simp only [Linter.fixedSource]
      congr 1 <;> omega

theorem fixPasses_add_of_not_drops (first second : Nat) (p : Progress)
    (h : ¬ Drops linter first p.current) :
    linter.fixPasses (first + second) p = linter.fixPasses second (linter.fixPasses first p) := by
  induction first generalizing p with
  | zero => rw [Nat.zero_add]; rfl
  | succ first ih =>
    rcases fixPass_cases linter p.current with
      ⟨-, hidle⟩ | ⟨output, applied, hchanges, ⟨-, herror⟩ | ⟨hpass, herror⟩⟩
    -- At rest, neither run moves.
    · rw [hidle.fixPasses_eq, hidle.fixPasses_eq, hidle.fixPasses_eq]
    · exact absurd
        ⟨[], p.current, .start _, Nat.succ_pos first, output, applied, hchanges, herror⟩ h
    -- A pass that is kept leads both runs on.
    · have hrest : ¬ Drops linter first output := by
        rintro ⟨counts, final, hkept, hlt, hdropped⟩
        exact h ⟨applied :: counts, final, .pass hchanges herror hkept, Nat.succ_lt_succ hlt,
          hdropped⟩
      rw [Nat.succ_add, Linter.fixPasses, Linter.fixPasses, hpass]
      exact ih _ hrest

/-- After a dropped pass a second run only tries that pass again. -/
theorem fixPasses_add_of_drops {first second : Nat} (hsecond : 1 ≤ second)
    (h : Drops linter first source) :
    linter.fixedSource second (linter.fixedSource first source) =
        linter.fixedSource (first + second) source ∧
      linter.fixPasses (first + second) ⟨source, 0, 0⟩ = linter.fixPasses first ⟨source, 0, 0⟩ ∧
      (linter.fixPasses second ⟨linter.fixedSource first source, 0, 0⟩).applied = 0 ∧
      (linter.fixPasses second ⟨linter.fixedSource first source, 0, 0⟩).passes = 1 := by
  obtain ⟨counts, final, hkept, hlt, output, applied, hchanges, herror⟩ := h
  have honce := hkept.fixPasses_of_dropped hchanges herror hlt 0 0
  have hwhole := hkept.fixPasses_of_dropped hchanges herror
    (Nat.lt_of_lt_of_le hlt (Nat.le_add_right first second)) 0 0
  have hagain := (Kept.start final).fixPasses_of_dropped hchanges herror hsecond 0 0
  simp [Linter.fixedSource, honce, hwhole, hagain]

/-- Two runs, the second over what the first ends with, come to one run with both limits together.
The passes add up as well, but for one that is dropped: the second run tries it again. -/
theorem fix_in_two_runs (linter : Linter) (source : Bytes) (path : String) (first : Nat)
    {second : Nat} (hsecond : 1 ≤ second) :
    ∃ once again whole,
      (linter.withLimit first).fix source path = .ok once ∧
      (linter.withLimit second).fix (linter.fixedSource first source) path = .ok again ∧
      (linter.withLimit (first + second)).fix source path = .ok whole ∧
      once.output = decode (linter.fixedSource first source) ∧
      linter.fixedSource second (linter.fixedSource first source) =
        linter.fixedSource (first + second) source ∧
      again.output = whole.output ∧
      again.messages = whole.messages ∧
      once.applied + again.applied = whole.applied ∧
      (¬ Drops linter first source → once.passes + again.passes = whole.passes) ∧
      (Drops linter first source → once.passes + again.passes = whole.passes + 1) := by
  refine ⟨_, _, _, fix_withLimit .., fix_withLimit .., fix_withLimit .., rfl, ?_⟩
  by_cases hdrops : Drops linter first source
  · obtain ⟨hfinal, hwhole, happlied, hpasses⟩ := fixPasses_add_of_drops hsecond hdrops
    refine ⟨hfinal, congrArg decode hfinal, congrArg linter.messages hfinal, ?_,
      fun h => absurd hdrops h, fun _ => ?_⟩
    · simp only [Linter.fixedWithin, happlied, hwhole, Nat.add_zero]
    · simp only [Linter.fixedWithin, hpasses, hwhole]
  · have hwhole := fixPasses_add_of_not_drops first second ⟨source, 0, 0⟩ hdrops
    rw [fixPasses_from linter second] at hwhole
    have hfinal : linter.fixedSource second (linter.fixedSource first source) =
        linter.fixedSource (first + second) source := (congrArg Progress.current hwhole).symm
    exact ⟨hfinal, congrArg decode hfinal, congrArg linter.messages hfinal,
      (congrArg Progress.applied hwhole).symm, fun _ => (congrArg Progress.passes hwhole).symm,
      fun h => absurd h hdrops⟩

/-- Over `a`, `growing` keeps its first pass and drops its second. A run cut between them adds up,
and one cut after the dropped pass counts it twice. -/
theorem fix_in_two_runs_growing :
    (∃ once again whole, (growing.withLimit 1).fix (encode "a") "f" = .ok once ∧
      (growing.withLimit 1).fix (encode "xa") "f" = .ok again ∧
      (growing.withLimit 2).fix (encode "a") "f" = .ok whole ∧
      once.applied + again.applied = whole.applied ∧ once.passes + again.passes = whole.passes) ∧
    ∃ once again whole, (growing.withLimit 2).fix (encode "a") "f" = .ok once ∧
      (growing.withLimit 1).fix (encode "xa") "f" = .ok again ∧
      (growing.withLimit 3).fix (encode "a") "f" = .ok whole ∧
      once.applied + again.applied = whole.applied ∧
      once.passes + again.passes = whole.passes + 1 := by
  have hpass : growing.fixPass (encode "a") = .improved (encode "xa") 1 := by decide +kernel
  constructor
  · obtain ⟨once, again, whole, honce, hagain, hwhole, -, -, -, -, happlied, hpasses, -⟩ :=
      fix_in_two_runs growing (encode "a") "f" 1 (Nat.le_refl 1)
    have hmiddle : growing.fixedSource 1 (encode "a") = encode "xa" := by decide +kernel
    rw [hmiddle] at hagain
    refine ⟨once, again, whole, honce, hagain, hwhole, happlied, hpasses ?_⟩
    rintro ⟨counts, final, hkept, hlt, output, applied, hchanges, herror⟩
    obtain rfl : counts = [] := List.eq_nil_of_length_eq_zero (by omega)
    cases hkept
    rw [hchanges.fixPass_eq, if_pos herror] at hpass
    cases hpass
  · obtain ⟨once, again, whole, honce, hagain, hwhole, -, -, -, -, happlied, -, hpasses⟩ :=
      fix_in_two_runs growing (encode "a") "f" 2 (Nat.le_refl 1)
    have hmiddle : growing.fixedSource 2 (encode "a") = encode "xa" := by decide +kernel
    rw [hmiddle] at hagain
    refine ⟨once, again, whole, honce, hagain, hwhole, happlied, hpasses ?_⟩
    have hkept : Kept growing (encode "a") [1] (encode "xa") :=
      .pass ⟨by decide +kernel, by decide +kernel, by decide⟩ (by decide +kernel) (.start _)
    exact ⟨[1], encode "xa", hkept, by decide, encode "xxa", 1,
      ⟨by decide +kernel, by decide +kernel, by decide⟩, by decide +kernel⟩

/-! ## A run that has come to rest -/

theorem span_of_mem_fixesOf {fix : SpanEdit} (h : fix ∈ linter.fixesOf source) :
    0 ≤ fix.start ∧ fix.start ≤ fix.stop := by
  obtain ⟨m, hm, hfix⟩ := List.mem_filterMap.mp h
  rcases mem_messages hm with ⟨-, node, rfl⟩ | hfound
  · cases hfix
  · obtain ⟨⟨info, d⟩, -, rfl⟩ := List.mem_map.mp hfound
    rw [fix_message] at hfix
    obtain ⟨script, -, rfl⟩ := Option.map_eq_some_iff.mp hfix
    exact ⟨Int.natCast_nonneg _, Int.ofNat_le.mpr script.start_le_stop⟩

theorem applied_eq_zero_iff (linter : Linter) (source : Bytes) :
    (applyFixes source (linter.fixesOf source)).2 = 0 ↔
      ∀ m ∈ linter.messages source, m.fix = none := by
  have hspans : ∀ fix ∈ linter.fixesOf source, 0 ≤ fix.start ∧ fix.start ≤ fix.stop :=
    fun _ hfix => span_of_mem_fixesOf hfix
  rw [applyFixes, List.length_eq_zero_iff, selectFixes_eq_nil_iff hspans, Linter.fixesOf,
    List.filterMap_eq_nil_iff]

theorem Kept.changes_of_ne {counts : List Nat} (h : Kept linter source counts final)
    (hne : final ≠ source) : ∃ output applied, Changes linter source output applied := by
  cases h with
  | start _ => exact absurd rfl hne
  | pass hchanges _ _ => exact ⟨_, _, hchanges⟩

/-- A run that changes its source has read it and found a fix in it, and what it ends with can be
read. -/
theorem of_fixedSource_ne (h : linter.fixedSource limit source ≠ source) :
    (linter.parser source).hasError = false ∧
      (∃ m ∈ linter.messages source, m.fix.isSome = true) ∧
      (linter.parser (linter.fixedSource limit source)).hasError = false := by
  obtain ⟨counts, passes, hkept, -⟩ := fixPasses_run linter limit ⟨source, 0, 0⟩
  obtain ⟨output, applied, hchanges⟩ := hkept.changes_of_ne h
  obtain ⟨m, hm, hfix⟩ : ∃ m ∈ linter.messages source, m.fix.isSome = true := by
    by_contra hnone
    have hidle : (applyFixes source (linter.fixesOf source)).2 = 0 := by
      rw [applied_eq_zero_iff]
      simpa using hnone
    rw [hchanges.applies] at hidle
    exact hchanges.some_applied hidle
  have herror := (readable_of_mem hm (hchanges.readable m hm)).2
  exact ⟨herror, ⟨m, hm, hfix⟩, hkept.hasError_eq_false herror⟩

theorem Idle.fix_eq_none (h : Idle linter source) : ∀ m ∈ linter.messages source, m.fix = none := by
  rcases h with ⟨n, hn, hfatal⟩ | hnone
  · obtain ⟨node, hmessages⟩ := messages_of_fatal hn hfatal
    intro m hm
    rw [hmessages, List.mem_singleton] at hm
    rw [hm]
    rfl
  · exact (applied_eq_zero_iff linter source).mp hnone

theorem Idle.fixedSource_eq (h : Idle linter source) (limit : Nat) :
    linter.fixedSource limit source = source :=
  congrArg Progress.current (Idle.fixPasses_eq (p := ⟨source, 0, 0⟩) h limit)

theorem Idle.fixedWithin_eq (h : Idle linter source) (limit : Nat) (path : String) :
    linter.fixedWithin limit source path =
      { path := path, output := decode source, messages := linter.messages source } := by
  have hrest : linter.fixPasses limit ⟨source, 0, 0⟩ = ⟨source, 0, 0⟩ :=
    Idle.fixPasses_eq (p := ⟨source, 0, 0⟩) h limit
  rw [Linter.fixedWithin, h.fixedSource_eq, hrest]
  simp

/-- A run that stops below its limit, and not for a dropped pass, stops because there is nothing to
do. -/
theorem idle_of_early_stop (hearly : (linter.fixPasses limit ⟨source, 0, 0⟩).passes < limit)
    (hdrops : ¬ Drops linter limit source) : Idle linter (linter.fixedSource limit source) := by
  obtain ⟨counts, passes, hkept, hends, -, hpasses⟩ := fixPasses_run linter limit ⟨source, 0, 0⟩
  simp only [Nat.zero_add] at hpasses
  cases hends with
  | atLimit h => omega
  | idle _ hidle => exact hidle
  | dropped hlt hchanges herror =>
    exact absurd ⟨counts, _, hkept, hlt, _, _, hchanges, herror⟩ hdrops

/-- Fixing stops early only at rest: no message that is left has a fix, and fixing what it ends with
once more, with any limit, changes nothing. -/
theorem fix_again_of_early_stop (hlimit : linter.config.passLimit = .ok limit) (source : Bytes)
    (path : String) :
    ∃ result final, linter.fix source path = .ok result ∧
      final = linter.fixedSource limit source ∧
      result.output = decode final ∧
      (result.passes < limit → ¬ Drops linter limit source →
        (∀ m ∈ result.messages, m.fix = none) ∧
        ∀ again,
          linter.fixedSource again final = final ∧
          (linter.withLimit again).fix final path = .ok
            { path := path, output := result.output, fixed := false, applied := 0, passes := 0
              messages := result.messages }) ∧
      ∀ source, (applyFixes source (linter.fixesOf source)).2 = 0 ↔
        ∀ m ∈ linter.messages source, m.fix = none := by
  refine ⟨_, _, fix_eq hlimit source path, rfl, rfl, ?_, applied_eq_zero_iff linter⟩
  intro hearly hdrops
  have hidle : Idle linter (linter.fixedSource limit source) := idle_of_early_stop hearly hdrops
  refine ⟨hidle.fix_eq_none, ?_⟩
  intro again
  refine ⟨hidle.fixedSource_eq again, ?_⟩
  rw [fix_withLimit, hidle.fixedWithin_eq]
  rfl

/-- A double complement, and an operation whose rewrite is only suggested. -/
def complement : Bytes := encode "~~x;y|0"

/-- One pass of ten is enough, and the suggestion that is left brings no second. -/
theorem fix_again_of_early_stop_complement :
    ∃ result, scriptLinter.fix complement "f" = .ok result ∧ result.passes = 1 ∧
      result.messages.map (·.remedyKind) = [.suggestion] ∧
      (∀ m ∈ result.messages, m.fix = none) ∧
      ∃ again, (scriptLinter.withLimit 1).fix (encode "Math.trunc(x);y|0") "f" = .ok again ∧
        again.fixed = false ∧ again.applied = 0 ∧ again.messages = result.messages := by
  have hdone : scriptLinter.fixPasses 10 ⟨complement, 0, 0⟩ =
      ⟨encode "Math.trunc(x);y|0", 1, 1⟩ := by decide +kernel
  have hrest : scriptLinter.fixPass (encode "Math.trunc(x);y|0") = .nothing ∧
      (scriptLinter.messages (encode "Math.trunc(x);y|0")).map (·.remedyKind) = [.suggestion] := by
    decide +kernel
  have hfixed : scriptLinter.fixedSource 10 complement = encode "Math.trunc(x);y|0" := by
    rw [Linter.fixedSource, hdone]
  have hlimit : scriptLinter.config.passLimit = .ok 10 := rfl
  obtain ⟨result, final, hfix, hfinal, -, hstop, -⟩ :=
    fix_again_of_early_stop hlimit complement "f"
  have hresult := Except.ok.inj (hfix.symm.trans (fix_eq hlimit complement "f"))
  have hpasses : result.passes = 1 := by rw [hresult, Linter.fixedWithin, hdone]
  have hkinds : result.messages.map (·.remedyKind) = [.suggestion] := by
    rw [hresult, Linter.fixedWithin, hfixed, hrest.2]
  have hdrops : ¬ Drops scriptLinter 10 complement := by
    intro h
    have hbroken := h.fixPass_eq
    rw [hfixed, hrest.1] at hbroken
    cases hbroken
  obtain ⟨hnone, hagain⟩ := hstop (by omega) hdrops
  rw [hfinal, hfixed] at hagain
  exact ⟨result, hfix, hpasses, hkinds, hnone, _, (hagain 1).2, rfl, rfl, rfl⟩

end TruncIdiom.Lint
