import TruncIdiom.Proofs.Lint.Rerun
import TruncIdiom.Proofs.Workspace.FileMap
import TruncIdiom.Workspace.FileLinting

/-!
What fixing a file leaves in it.

A file is written as the text that is read from the fixed bytes. `fixFile_holds` says what that
comes to: the passes that are kept change nothing outside the fixes they apply, and the file holds
exactly the bytes they made when these are UTF-8. Otherwise it does not, for every ill-formed piece
is written as U+FFFD, in comments and strings that no fix touches as well (`fixFile_holds_latin`).
-/

namespace TruncIdiom.Workspace

open Text Lint Rule

variable {linter : Linter} {m m' : FileMap} {path : String} {content : Bytes} {limit : Nat}
  {dryRun : Bool}

/-! ## What is written -/

theorem fixedFile_eq (hcontent : m.readSource? path = some content) :
    fixedFile linter m path = linter.fix content path := by
  rw [fixedFile, hcontent]

/-- The file map after a run: the file holds the text of the fixed bytes when there was something
to fix and the run is not dry. -/
theorem fixFile_eq (hlimit : linter.config.passLimit = .ok limit)
    (hcontent : m.readSource? path = some content) (dryRun : Bool) :
    ∃ result, linter.fix content path = .ok result ∧
      fixFile linter m path dryRun = .ok (result,
        if linter.fixedSource limit content ≠ content ∧ dryRun = false then
          m.write path (encode (decode (linter.fixedSource limit content)))
        else m) := by
  refine ⟨_, fix_eq hlimit content path, ?_⟩
  rw [fixFile, fixedFile_eq hcontent, fix_eq hlimit, Linter.fixedWithin]
  by_cases hfixed : linter.fixedSource limit content = content
  · simp [hfixed, bind, Except.bind, pure, Except.pure]
  · cases dryRun <;> simp [hfixed, bind, Except.bind, pure, Except.pure]

theorem fixFile_cases {result : FixResult}
    (h : fixFile linter m path dryRun = .ok (result, m')) :
    m' = m ∨ ∃ content limit, m.readSource? path = some content ∧
      linter.config.passLimit = .ok limit ∧ dryRun = false ∧
      linter.fixedSource limit content ≠ content ∧
      m' = m.write path (encode (decode (linter.fixedSource limit content))) := by
  cases hcontent : m.readSource? path with
  | none =>
    left
    have hfile : fixFile linter m path dryRun = .ok ({ path := path, output := "" }, m) := by
      rw [fixFile, fixedFile, hcontent]
      rfl
    rw [hfile] at h
    exact (Prod.mk.inj (Except.ok.inj h)).2.symm
  | some content =>
    cases hlimit : linter.config.passLimit with
    | error e =>
      rw [fixFile, fixedFile_eq hcontent, Linter.fix, hlimit] at h
      cases h
    | ok limit =>
      obtain ⟨_, -, hfile⟩ := fixFile_eq hlimit hcontent dryRun
      rw [hfile] at h
      obtain ⟨-, hm⟩ := Prod.mk.inj (Except.ok.inj h)
      split at hm
      · next hwritten =>
        exact .inr ⟨content, limit, rfl, rfl, hwritten.2, hwritten.1, hm.symm⟩
      · exact .inl hm.symm

/-! ## Dry runs -/

theorem fixFile_of_fixedFile {result : FixResult} (h : fixedFile linter m path = .ok result)
    (dryRun : Bool) :
    fixFile linter m path dryRun = .ok (result,
      if result.fixed && !dryRun then m.write path (encode result.output) else m) := by
  unfold fixFile
  rw [h]
  dsimp only [bind, Except.bind, pure, Except.pure]
  split <;> rfl

theorem fixFile_dry (linter : Linter) (m : FileMap) (path : String) :
    fixFile linter m path true =
      (fixFile linter m path false).map fun result => (result.1, m) := by
  cases hresult : fixedFile linter m path with
  | error e =>
    unfold fixFile
    rw [hresult]
    rfl
  | ok result =>
    rw [fixFile_of_fixedFile hresult, fixFile_of_fixedFile hresult, Bool.not_true, Bool.and_false]
    rfl

theorem exists_read?_of_fixed {result : FixResult} (h : fixedFile linter m path = .ok result)
    (hfixed : result.fixed = true) : ∃ content, m.read? path = some content := by
  unfold fixedFile at h
  split at h
  · next content hcontent => exact ⟨content, (FileMap.readSource?_eq_some.mp hcontent).1⟩
  · obtain rfl := Except.ok.inj h
    cases hfixed

/-- A run writes the output of its result when it has fixed something, and no other file. -/
theorem fixFile_leaves {result : FixResult}
    (h : fixFile linter m path false = .ok (result, m')) :
    (∀ place, m.placeOf? path ≠ some place → m'.get? place = m.get? place) ∧
      m'.read? path = if result.fixed then some (encode result.output) else m.read? path := by
  cases hresult : fixedFile linter m path with
  | error e =>
    unfold fixFile at h
    rw [hresult] at h
    cases h
  | ok fixed =>
    rw [fixFile_of_fixedFile hresult, Bool.not_false, Bool.and_true] at h
    obtain ⟨rfl, rfl⟩ := Prod.mk.inj (Except.ok.inj h)
    cases hfixed : fixed.fixed with
    | false => exact ⟨fun _ _ => rfl, rfl⟩
    | true =>
      obtain ⟨content, hcontent⟩ := exists_read?_of_fixed hresult hfixed
      refine ⟨?_, FileMap.read?_write hcontent _⟩
      intro place hplace
      exact FileMap.get?_write_of_ne hplace _

/-! ## What the file holds -/

/-- After a run that is not dry the file holds what the kept passes made of it, written as text.
Each of them keeps every byte outside the fixes it applies, so these bytes are in the file unless
they are no UTF-8. Every other file is as it was. -/
theorem fixFile_holds (hlimit : linter.config.passLimit = .ok limit)
    (hcontent : m.readSource? path = some content) :
    ∃ result m' counts final,
      fixFile linter m path false = .ok (result, m') ∧
      linter.fix content path = .ok result ∧
      final = linter.fixedSource limit content ∧
      Kept linter content counts final ∧
      result.applied = counts.sum ∧
      (∀ source output applied, Changes linter source output applied →
        SameOutside (selectFixes (linter.fixesOf source)) source output) ∧
      m'.read? path = some (if final = content then content else encode (decode final)) ∧
      (m'.read? path = some final ↔ final = content ∨ ∃ text, final = encode text) ∧
      ∀ place, m.placeOf? path ≠ some place → m'.get? place = m.get? place := by
  obtain ⟨result, hfix, hfile⟩ := fixFile_eq hlimit hcontent false
  obtain ⟨counts, passes, hkept, -, happlied, -⟩ := fixPasses_run linter limit ⟨content, 0, 0⟩
  obtain ⟨hread, -⟩ := FileMap.readSource?_eq_some.mp hcontent
  have hresult := Except.ok.inj (hfix.symm.trans (fix_eq hlimit content path))
  refine ⟨result, _, counts, _, hfile, hfix, rfl, hkept, ?_, ?_, ?_⟩
  · rw [hresult]
    simpa [Linter.fixedWithin] using happlied
  · intro source output applied hchanges
    have hsame := sameOutside_applyFixes source (linter.fixesOf source)
    rwa [hchanges.applies] at hsame
  · by_cases hfixed : linter.fixedSource limit content = content
    · rw [if_neg (fun h => h.1 hfixed), if_pos hfixed, hfixed]
      exact ⟨hread, ⟨fun _ => .inl rfl, fun _ => hread⟩, fun _ _ => rfl⟩
    · rw [if_pos ⟨hfixed, rfl⟩, if_neg hfixed, FileMap.read?_write hread]
      refine ⟨rfl, ?_, fun place hplace => FileMap.get?_write_of_ne hplace _⟩
      rw [Option.some_inj, encode_decode_iff]
      exact ⟨.inr, fun h => h.resolve_left hfixed⟩

/-- A comment in Latin-1 behind a double complement. -/
def latin : Bytes := encode "~~a;//" ++ [0xE9]

/-- The comment is not touched by the fix, and still is not what it was. -/
theorem fixFile_holds_latin :
    let m : FileMap := ⟨[(["a.js"], latin)], []⟩
    ∃ result m', m.readSource? "a.js" = some latin ∧
      fixFile scriptLinter m "a.js" false = .ok (result, m') ∧
      scriptLinter.fixedSource 10 latin = encode "Math.trunc(a);//" ++ [0xE9] ∧
      m'.read? "a.js" = some (encode "Math.trunc(a);//\uFFFD") ∧
      m'.read? "a.js" ≠ some (encode "Math.trunc(a);//" ++ [0xE9]) := by
  intro m
  have hcontent : m.readSource? "a.js" = some latin := by decide +kernel
  have hlimit : scriptLinter.config.passLimit = .ok 10 := rfl
  have hfinal : scriptLinter.fixedSource 10 latin = encode "Math.trunc(a);//" ++ [0xE9] := by
    decide +kernel
  obtain ⟨result, m', counts, final, hfile, -, hfixed, -, -, -, hread, -, -⟩ :=
    fixFile_holds hlimit hcontent
  have hwritten : (if encode "Math.trunc(a);//" ++ [0xE9] = latin then latin
      else encode (decode (encode "Math.trunc(a);//" ++ [0xE9]))) =
        encode "Math.trunc(a);//\uFFFD" := by decide +kernel
  rw [hfixed, hfinal, hwritten] at hread
  refine ⟨result, m', hcontent, hfile, hfinal, hread, ?_⟩
  rw [hread]
  decide +kernel

end TruncIdiom.Workspace
