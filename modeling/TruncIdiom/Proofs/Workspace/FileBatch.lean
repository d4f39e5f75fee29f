import TruncIdiom.Proofs.Lint.Config
import TruncIdiom.Proofs.Workspace.FileMap
import TruncIdiom.Workspace.FileBatch

/-!
A batch on trial.

What the edits of a file come to depends on the content of that file alone, and only that file is
written. So as long as the paths of a batch lead to different files, what is written for one of them
is not read for another, and a dry run counts what the run itself would (`applyByFile_dry`).
-/

namespace TruncIdiom.Workspace

open Text Lint FileMap

variable {m m' trial : FileMap} {path : String} {edits : List SentEdit} {applied : Nat}

/-! ## One file -/

theorem applyToFile_eq (m : FileMap) (path : String) {requests : List Request} (dryRun : Bool)
    (hrequests : edits.mapM SentEdit.request = .ok requests) :
    applyToFile m path edits dryRun =
      match m.read? path with
      | none => .ok (0, m)
      | some content => (applyRequests content requests).map fun result =>
          (result.2, if dryRun then m else m.write path result.1) := by
  unfold applyToFile
  rw [hrequests]
  dsimp only [bind, Except.bind, pure, Except.pure]
  cases m.read? path with
  | none => rfl
  | some content =>
    dsimp only
    cases applyRequests content requests <;> rfl

theorem applyToFile_of_error (m : FileMap) (path : String) (dryRun : Bool) {e : BatchError}
    (hrequests : edits.mapM SentEdit.request = .error e) :
    applyToFile m path edits dryRun = .error e := by
  unfold applyToFile
  rw [hrequests]
  rfl

theorem applyToFile_cases (h : applyToFile m path edits false = .ok (applied, m')) :
    (m.read? path = none ∧ applied = 0 ∧ m' = m) ∨
      ∃ requests content output, edits.mapM SentEdit.request = .ok requests ∧
        m.read? path = some content ∧ applyRequests content requests = .ok (output, applied) ∧
        m' = m.write path output := by
  cases hrequests : edits.mapM SentEdit.request with
  | error e =>
    rw [applyToFile_of_error m path false hrequests] at h
    cases h
  | ok requests =>
    rw [applyToFile_eq m path false hrequests] at h
    cases hcontent : m.read? path with
    | none =>
      rw [hcontent] at h
      obtain ⟨rfl, rfl⟩ := Prod.mk.inj (Except.ok.inj h)
      exact .inl ⟨rfl, rfl, rfl⟩
    | some content =>
      rw [hcontent] at h
      obtain ⟨⟨output, count⟩, houtput, hresult⟩ := exists_of_map_eq_ok h
      obtain ⟨rfl, rfl⟩ := Prod.mk.inj hresult
      exact .inr ⟨requests, content, output, rfl, rfl, houtput, rfl⟩

/-- A dry run over one file counts what the run itself would, where the file reads the same. -/
theorem applyToFile_dry (hread : trial.read? path = m.read? path) (edits : List SentEdit) :
    applyToFile trial path edits true =
      (applyToFile m path edits false).map fun result => (result.1, trial) := by
  cases hrequests : edits.mapM SentEdit.request with
  | error e =>
    rw [applyToFile_of_error trial path true hrequests, applyToFile_of_error m path false hrequests]
    rfl
  | ok requests =>
    rw [applyToFile_eq trial path true hrequests, applyToFile_eq m path false hrequests, hread]
    cases m.read? path with
    | none => rfl
    | some content =>
      dsimp only
      cases applyRequests content requests <;> rfl

/-! ## All files -/

/-- A batch whose paths lead to different files. -/
def DistinctFiles (m : FileMap) (batch : List (String × List SentEdit)) : Prop :=
  batch.Pairwise fun a b => m.Apart a.1 b.1

instance (m : FileMap) (batch : List (String × List SentEdit)) :
    Decidable (DistinctFiles m batch) :=
  inferInstanceAs (Decidable (batch.Pairwise _))

theorem DistinctFiles.of_places {batch : List (String × List SentEdit)}
    (h : DistinctFiles m batch) (hplaces : ∀ path, m'.placeOf? path = m.placeOf? path) :
    DistinctFiles m' batch := by
  refine List.Pairwise.imp ?_ h
  intro a b hapart place ha hb
  rw [hplaces] at ha hb
  exact hapart place ha hb

theorem DistinctFiles.of_write {batch : List (String × List SentEdit)} {content old : Bytes}
    (h : DistinctFiles m batch) (hread : m.read? path = some old) :
    DistinctFiles (m.write path content) batch :=
  h.of_places (placeOf?_write hread content)

/-- While a run goes on, the files that are still to come read as they did before it. -/
theorem applyByFile_dry_of_reads {batch : List (String × List SentEdit)}
    (hreads : ∀ entry ∈ batch, trial.read? entry.1 = m.read? entry.1)
    (hdistinct : DistinctFiles m batch) :
    applyByFile trial true batch = (trial, (applyByFile m false batch).2) := by
  induction batch generalizing m with
  | nil => rfl
  | cons entry rest ih =>
    obtain ⟨path, edits⟩ := entry
    obtain ⟨hapart, hrest⟩ := List.pairwise_cons.mp hdistinct
    have hlater : ∀ entry ∈ rest, trial.read? entry.1 = m.read? entry.1 := by
      intro entry hentry
      exact hreads entry (List.mem_cons_of_mem _ hentry)
    cases edits with
    | nil => exact ih hlater hrest
    | cons edit edits =>
      have hdry := applyToFile_dry (hreads _ List.mem_cons_self) (edit :: edits)
      cases hreal : applyToFile m path (edit :: edits) false with
      | error e =>
        rw [hreal] at hdry
        have hdry : applyToFile trial path (edit :: edits) true = .error e := hdry
        simp only [applyByFile, hdry, hreal]
        split
        · rw [ih hlater hrest]
        · rfl
      | ok result =>
        obtain ⟨applied, written⟩ := result
        rw [hreal] at hdry
        have hdry : applyToFile trial path (edit :: edits) true = .ok (applied, trial) := hdry
        -- What was written is not among the files still to come.
        have hnext : (∀ entry ∈ rest, trial.read? entry.1 = written.read? entry.1) ∧
            DistinctFiles written rest := by
          rcases applyToFile_cases hreal with
            ⟨-, -, rfl⟩ | ⟨requests, content, output, -, hread, -, rfl⟩
          · exact ⟨hlater, hrest⟩
          · refine ⟨?_, DistinctFiles.of_write hrest hread⟩
            intro entry hentry
            rw [hlater entry hentry, read?_write_of_apart hread (hapart entry hentry)]
        simp only [applyByFile, hdry, hreal]
        rw [ih hnext.1 hnext.2]

/-- A dry run over a batch changes nothing and answers what the run itself would. -/
theorem applyByFile_dry {batch : List (String × List SentEdit)} (h : DistinctFiles m batch) :
    applyByFile m true batch = (m, (applyByFile m false batch).2) :=
  applyByFile_dry_of_reads (fun _ _ => rfl) h

end TruncIdiom.Workspace
