import Mathlib.Algebra.GroupWithZero.Nat
import TruncIdiom.Lint.Fixing
import TruncIdiom.Proofs.Lint.Messages

/-!
Runs of fix passes.

A run of passes over a source is a chain of passes that are kept, and a reason to end it. `Changes`
says what a pass does, `Kept` is the chain with the number of fixes each pass applied, and `Ends`
lists the reasons: the limit is reached, nothing is left to apply, or a pass spoils the source and
is dropped. `fixPasses_run` is the step lemma by induction on the limit, for any parser and any
rules, and `fix_run` is what it says of the result of fixing: a source that can be read is left
readable.
-/

namespace TruncIdiom.Lint

open Text Syntax Rule

variable {linter : Linter} {source output final : Bytes} {applied limit : Nat}

/-! ## One pass -/

def Linter.fixesOf (linter : Linter) (source : Bytes) : List SpanEdit :=
  (linter.messages source).filterMap (·.fix)

/-- What a pass makes of a source that can be read and has something to apply. -/
structure Changes (linter : Linter) (source output : Bytes) (applied : Nat) : Prop where
  readable : ∀ m ∈ linter.messages source, m.fatal = false
  applies : applyFixes source (linter.fixesOf source) = (output, applied)
  some_applied : applied ≠ 0

def Idle (linter : Linter) (source : Bytes) : Prop :=
  (∃ m ∈ linter.messages source, m.fatal = true) ∨
    (applyFixes source (linter.fixesOf source)).2 = 0

theorem fixPass_cases (linter : Linter) (source : Bytes) :
    (linter.fixPass source = .nothing ∧ Idle linter source) ∨
      ∃ output applied, Changes linter source output applied ∧
        ((linter.fixPass source = .broken ∧ (linter.parser output).hasError = true) ∨
          (linter.fixPass source = .improved output applied ∧
            (linter.parser output).hasError = false)) := by
  by_cases hfatal : (linter.messages source).any (·.fatal) = true
  · left
    exact ⟨by simp [Linter.fixPass, hfatal], .inl (List.any_eq_true.mp hfatal)⟩
  · obtain ⟨output, applied, happly⟩ :
        ∃ output applied, applyFixes source (linter.fixesOf source) = (output, applied) :=
      ⟨_, _, rfl⟩
    have hpass : linter.fixPass source =
        if applied = 0 then .nothing
        else if linter.rejects output then .broken else .improved output applied := by
      rw [Linter.fixesOf] at happly
      simp only [Linter.fixPass, hfatal, happly, Bool.false_eq_true, if_false]
    by_cases hnone : applied = 0
    · left
      rw [if_pos hnone] at hpass
      exact ⟨hpass, .inr (by rw [happly]; exact hnone)⟩
    · right
      rw [if_neg hnone, Linter.rejects, isSome_firstFault?] at hpass
      refine ⟨output, applied, ⟨?_, happly, hnone⟩, ?_⟩
      · simpa using hfatal
      · cases herror : (linter.parser output).hasError <;> simp [hpass, herror]

/-! ## Runs -/

/-- Passes that are kept, from a source to where they lead, with the number of fixes that each one
applied. -/
inductive Kept (linter : Linter) : Bytes → List Nat → Bytes → Prop
  | start (source : Bytes) : Kept linter source [] source
  | pass {source output final : Bytes} {applied : Nat} {counts : List Nat} :
      Changes linter source output applied → (linter.parser output).hasError = false →
      Kept linter output counts final → Kept linter source (applied :: counts) final

/-- Why a run of passes ends after some that were kept, and how many passes it counts. A pass that
spoils the source is counted, and is the only one that is not kept. -/
inductive Ends (linter : Linter) (final : Bytes) (limit kept : Nat) : Nat → Prop
  | atLimit : kept = limit → Ends linter final limit kept kept
  | idle : kept < limit → Idle linter final → Ends linter final limit kept kept
  | dropped {output : Bytes} {applied : Nat} : kept < limit →
      Changes linter final output applied → (linter.parser output).hasError = true →
      Ends linter final limit kept (kept + 1)

theorem Kept.hasError_eq_false {counts : List Nat} (h : Kept linter source counts final)
    (herror : (linter.parser source).hasError = false) :
    (linter.parser final).hasError = false := by
  induction h with
  | start _ => exact herror
  | pass _ houtput _ ih => exact ih houtput

theorem Ends.le_limit {kept passes : Nat} (h : Ends linter final limit kept passes) :
    passes ≤ limit := by
  cases h with
  | atLimit h => exact Nat.le_of_eq h
  | idle h _ => exact Nat.le_of_lt h
  | dropped h _ _ => exact h

theorem Ends.succ {kept passes : Nat} (h : Ends linter final limit kept passes) :
    Ends linter final (limit + 1) (kept + 1) (passes + 1) := by
  cases h with
  | atLimit h => exact .atLimit (congrArg (· + 1) h)
  | idle h hidle => exact .idle (Nat.succ_lt_succ h) hidle
  | dropped h hchanges herror => exact .dropped (Nat.succ_lt_succ h) hchanges herror

theorem fixPasses_run (linter : Linter) (limit : Nat) (p : Progress) :
    ∃ counts passes, Kept linter p.current counts (linter.fixPasses limit p).current ∧
      Ends linter (linter.fixPasses limit p).current limit counts.length passes ∧
      (linter.fixPasses limit p).applied = p.applied + counts.sum ∧
      (linter.fixPasses limit p).passes = p.passes + passes := by
  induction limit generalizing p with
  | zero => exact ⟨[], 0, .start _, .atLimit rfl, rfl, rfl⟩
  | succ limit ih =>
    -- Only a pass that is kept goes on; its count goes in front of those of the passes after it.
    rcases fixPass_cases linter p.current with
      ⟨hpass, hidle⟩ | ⟨output, applied, hchanges, ⟨hpass, herror⟩ | ⟨hpass, herror⟩⟩
    · rw [Linter.fixPasses, hpass]
      exact ⟨[], 0, .start _, .idle (Nat.succ_pos limit) hidle, rfl, rfl⟩
    · rw [Linter.fixPasses, hpass]
      exact ⟨[], 1, .start _, .dropped (Nat.succ_pos limit) hchanges herror, rfl, rfl⟩
    · rw [Linter.fixPasses, hpass]
      obtain ⟨counts, passes, hkept, hends, happlied, hpasses⟩ :=
        ih ⟨output, p.applied + applied, p.passes + 1⟩
      refine ⟨applied :: counts, passes + 1, .pass hchanges herror hkept, hends.succ, ?_, ?_⟩
      · rw [happlied, List.sum_cons]
        exact Nat.add_assoc _ _ _
      · rw [hpasses]
        show p.passes + 1 + passes = p.passes + (passes + 1)
        omega

/-! ## The result of fixing -/

/-- A run over a source that cannot be read is over at once. -/
theorem Kept.eq_of_fatal {counts : List Nat} (h : Kept linter source counts final)
    (hfatal : ∃ m ∈ linter.messages source, m.fatal = true) : counts = [] ∧ final = source := by
  cases h with
  | start _ => exact ⟨rfl, rfl⟩
  | pass hchanges _ _ =>
    obtain ⟨m, hm, hm'⟩ := hfatal
    exact absurd (hchanges.readable m hm) (by simp [hm'])

theorem Ends.eq_of_fatal {kept passes : Nat} (h : Ends linter final limit kept passes)
    (hfatal : ∃ m ∈ linter.messages final, m.fatal = true) : passes = kept := by
  cases h with
  | atLimit _ => rfl
  | idle _ _ => rfl
  | dropped _ hchanges _ =>
    obtain ⟨m, hm, hm'⟩ := hfatal
    exact absurd (hchanges.readable m hm) (by simp [hm'])

/-- Fixing never leaves a readable source unreadable, and leaves an unreadable one alone. A limit
that is no integer is refused; with a limit, the result is that of a run of passes. -/
theorem fix_run (linter : Linter) (source : Bytes) (path : String) :
    (∀ e, linter.config.passLimit = .error e → linter.fix source path = .error e) ∧
      ∀ limit, linter.config.passLimit = .ok limit → ∃ result final counts,
        linter.fix source path = .ok result ∧
        final = (linter.fixPasses limit ⟨source, 0, 0⟩).current ∧
        result.output = decode final ∧
        Kept linter source counts final ∧
        result.applied = counts.sum ∧
        Ends linter final limit counts.length result.passes ∧
        result.passes ≤ limit ∧
        result.messages = linter.messages final ∧
        (result.fixed = true ↔ final ≠ source) ∧
        (linter.config.enabled = true → (linter.parser source).hasError = true →
          final = source ∧ result.applied = 0 ∧ result.passes = 0 ∧ result.fixed = false ∧
            ∃ m, result.messages = [m] ∧ m.fatal = true) ∧
        ((linter.parser source).hasError = false →
          (linter.parser final).hasError = false ∧ ∀ m ∈ result.messages, m.fatal = false) := by
  constructor
  · intro e he
    rw [Linter.fix, he]
    rfl
  · intro limit hlimit
    obtain ⟨counts, passes, hkept, hends, happlied, hpasses⟩ :=
      fixPasses_run linter limit ⟨source, 0, 0⟩
    have hfix : linter.fix source path = .ok
        { path := path
          output := decode (linter.fixPasses limit ⟨source, 0, 0⟩).current
          fixed := (linter.fixPasses limit ⟨source, 0, 0⟩).current ≠ source
          applied := (linter.fixPasses limit ⟨source, 0, 0⟩).applied
          passes := (linter.fixPasses limit ⟨source, 0, 0⟩).passes
          messages := linter.messages (linter.fixPasses limit ⟨source, 0, 0⟩).current } := by
      rw [Linter.fix, hlimit]
      rfl
    generalize linter.fixPasses limit ⟨source, 0, 0⟩ = done at *
    obtain ⟨final, applied, passes'⟩ := done
    simp only [Nat.zero_add] at happlied hpasses
    subst happlied hpasses
    refine ⟨_, final, counts, hfix, rfl, rfl, hkept, rfl, hends, hends.le_limit, rfl, ?_, ?_, ?_⟩
    · exact decide_eq_true_iff
    · intro henabled herror
      obtain ⟨node, hmessages⟩ := messages_of_hasError henabled herror
      have hfatal : ∃ m ∈ linter.messages source, m.fatal = true := by
        rw [hmessages]
        exact ⟨_, List.mem_singleton_self _, rfl⟩
      obtain ⟨rfl, rfl⟩ := hkept.eq_of_fatal hfatal
      exact ⟨rfl, rfl, hends.eq_of_fatal hfatal, decide_eq_false (not_not_intro rfl), _, hmessages,
        rfl⟩
    · intro herror
      have hfinal := hkept.hasError_eq_false herror
      exact ⟨hfinal, not_fatal_of_not_hasError hfinal⟩

/-- A linter that puts an `x` in front of its source in each pass, with a parser that finds an error
in three bytes or more. -/
def growing : Linter where
  parser source := .node ⟨"program", 0, source.length, true, false, none, 3 ≤ source.length⟩ []
  rules := [⟨{ id := "grow" }, [⟨["program"], fun _ l =>
    { reported := [
      ⟨l.info, "grow", [], .fix ⟨[⟨0, 0, "x", by decide⟩], by decide, by decide⟩⟩] }⟩]⟩]
  config := Config.default

/-- Over `a` the first pass is kept and the second dropped; `abc` cannot be read to begin with. -/
theorem fix_run_growing :
    (∃ result final, growing.fix (encode "a") "f" = .ok result ∧ final = encode "xa" ∧
      result.output = decode final ∧ result.applied = 1 ∧ result.passes = 2 ∧
      result.messages = growing.messages final ∧ (growing.parser final).hasError = false) ∧
    ∃ result, growing.fix (encode "abc") "f" = .ok result ∧ result.passes = 0 ∧
      ∃ m, result.messages = [m] ∧ m.fatal = true := by
  constructor
  · obtain ⟨result, final, counts, hfix, hfinal, houtput, -, -, -, -, hmessages, -, -, hreadable⟩ :=
      (fix_run growing (encode "a") "f").2 10 rfl
    have hdone : growing.fixPasses 10 ⟨encode "a", 0, 0⟩ = ⟨encode "xa", 1, 2⟩ := by
      decide +kernel
    have hresult : (growing.fix (encode "a") "f").toOption.map (fun r => (r.applied, r.passes)) =
        some (1, 2) := by decide +kernel
    rw [hfix] at hresult
    obtain ⟨happlied, hpasses⟩ := Prod.mk.inj (Option.some.inj hresult)
    exact ⟨result, final, hfix, by rw [hfinal, hdone], houtput, happlied, hpasses, hmessages,
      (hreadable (by decide)).1⟩
  · obtain ⟨result, final, counts, hfix, -, -, -, -, -, -, -, -, hunreadable, -⟩ :=
      (fix_run growing (encode "abc") "f").2 10 rfl
    obtain ⟨-, -, hpasses, -, hmessages⟩ := hunreadable (by decide) (by decide)
    exact ⟨result, hfix, hpasses, hmessages⟩

end TruncIdiom.Lint
