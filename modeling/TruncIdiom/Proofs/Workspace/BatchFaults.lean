import TruncIdiom.Proofs.Workspace.FileBatch
import TruncIdiom.Proofs.Workspace.SentEdits

/-!
What a fault in one file of a batch does to the others.

A file that is missing, or has an edit whose span is not in order, is passed over: it counts none,
and the others get what their own edits make of them alone. An edit that lacks a field is no such
fault. It ends the run at its file, with the files in front of it written, those behind it not
looked at, and no summary (`applyByFile_up_to_halt`).

`applyByFile_cons` says what one file does to a run, and `Served` what the run has done to the files
so far.
-/

namespace TruncIdiom.Workspace

open Text Collection FileMap

variable {m m' m'' : FileMap} {path : String} {edits : List SentEdit}
  {batch done : List (String × List SentEdit)}

/-! ## Each file alone -/

/-- What the edits of a file make of it, and how many of them take part. A file that is missing, or
has an edit that cannot be built, stays as it is and counts none. -/
def outcome (edits : List SentEdit) (content? : Option Bytes) : Option Bytes × Nat :=
  match content?, edits.mapM SentEdit.edit? with
  | some content, some es => (some (applyBatch content es).1, (applyBatch content es).2)
  | content?, _ => (content?, 0)

theorem outcome_missing (edits : List SentEdit) : outcome edits none = (none, 0) := rfl

theorem outcome_unbuilt (h : edits.mapM SentEdit.edit? = none) (content? : Option Bytes) :
    outcome edits content? = (content?, 0) := by
  cases content? with
  | none => rfl
  | some content =>
    unfold outcome
    rw [h]

theorem outcome_nil (content? : Option Bytes) : outcome [] content? = (content?, 0) := by
  cases content? <;> rfl

/-- The files of a batch that have edits, each with what it counts alone. -/
def summaryOf (m : FileMap) (batch : List (String × List SentEdit)) : Summary :=
  (batch.filter fun entry => !entry.2.isEmpty).map fun entry =>
    (entry.1, (outcome entry.2 (m.read? entry.1)).2)

theorem summaryOf_cons (m : FileMap) (entry : String × List SentEdit)
    (batch : List (String × List SentEdit)) :
    summaryOf m (entry :: batch) = summaryOf m [entry] ++ summaryOf m batch := by
  rw [summaryOf, summaryOf, summaryOf, ← List.map_append, ← List.filter_append]
  rfl

theorem summaryOf_congr (h : ∀ entry ∈ batch, m'.read? entry.1 = m.read? entry.1) :
    summaryOf m' batch = summaryOf m batch := by
  refine List.map_congr_left ?_
  intro entry hentry
  rw [h entry (List.mem_of_mem_filter hentry)]

/-! ## Files that are served -/

/-- Files after each of a batch got what its own edits make of it. Paths lead where they led, and
every other file is as it was. -/
structure Served (m : FileMap) (batch : List (String × List SentEdit)) (m' : FileMap) : Prop where
  contents : ∀ entry ∈ batch, m'.read? entry.1 = (outcome entry.2 (m.read? entry.1)).1
  places : ∀ path, m'.placeOf? path = m.placeOf? path
  elsewhere : ∀ place, (∀ entry ∈ batch, m.placeOf? entry.1 ≠ some place) →
    m'.get? place = m.get? place

namespace Served

theorem nil (m : FileMap) : Served m [] m where
  contents _ hentry := absurd hentry List.not_mem_nil
  places _ := rfl
  elsewhere _ _ := rfl

theorem of_same (h : (outcome edits (m.read? path)).1 = m.read? path) :
    Served m [(path, edits)] m where
  contents entry hentry := by
    obtain rfl := List.mem_singleton.mp hentry
    exact h.symm
  places _ := rfl
  elsewhere _ _ := rfl

theorem of_write {content output : Bytes} (hread : m.read? path = some content)
    (h : (outcome edits (m.read? path)).1 = some output) :
    Served m [(path, edits)] (m.write path output) where
  contents entry hentry := by
    obtain rfl := List.mem_singleton.mp hentry
    rw [read?_write hread, h]
  places := placeOf?_write hread output
  elsewhere place hplace := get?_write_of_ne (hplace _ (List.mem_singleton_self _)) output

theorem read?_of_apart (h : Served m batch m') (hapart : ∀ entry ∈ batch, m.Apart entry.1 path) :
    m'.read? path = m.read? path := by
  rw [read?, read?, h.places path]
  cases hpath : m.placeOf? path with
  | none => rfl
  | some place =>
    refine h.elsewhere place ?_
    intro entry hentry hplace
    exact hapart entry hentry place hplace hpath

theorem cons {entry : String × List SentEdit} (hfirst : Served m [entry] m')
    (hrest : Served m' done m'') (hapart : ∀ other ∈ done, m.Apart entry.1 other.1) :
    Served m (entry :: done) m'' where
  contents other hother := by
    rcases List.mem_cons.mp hother with rfl | hlater
    · rw [hrest.read?_of_apart ?_]
      · exact hfirst.contents other (List.mem_singleton_self _)
      · intro later hlater place hplace hentry
        rw [hfirst.places] at hplace hentry
        exact hapart later hlater place hentry hplace
    · rw [hrest.contents other hlater, hfirst.read?_of_apart]
      intro first hmem
      rw [List.mem_singleton.mp hmem]
      exact hapart other hlater
  places path := (hrest.places path).trans (hfirst.places path)
  elsewhere place hplace := by
    have hlater : ∀ other ∈ done, m'.placeOf? other.1 ≠ some place := by
      intro other hother
      rw [hfirst.places]
      exact hplace other (List.mem_cons_of_mem _ hother)
    have hhead : ∀ other ∈ [entry], m.placeOf? other.1 ≠ some place := by
      intro other hother
      obtain rfl := List.mem_singleton.mp hother
      exact hplace other List.mem_cons_self
    rw [hrest.elsewhere place hlater, hfirst.elsewhere place hhead]

end Served

/-! ## One file of a run -/

theorem applyByFile_cons_of_ok (hedits : edits ≠ []) {applied : Nat}
    (h : applyToFile m path edits false = .ok (applied, m'))
    (rest : List (String × List SentEdit)) :
    applyByFile m false ((path, edits) :: rest) =
      ((applyByFile m' false rest).1,
        (applyByFile m' false rest).2.map ((path, applied) :: ·)) := by
  cases edits with
  | nil => exact absurd rfl hedits
  | cons sent edits => simp only [applyByFile, h]

theorem applyByFile_cons_of_error (hedits : edits ≠ []) {e : BatchError}
    (h : applyToFile m path edits false = .error e) (rest : List (String × List SentEdit)) :
    applyByFile m false ((path, edits) :: rest) =
      if e.isPassedOver then
        ((applyByFile m false rest).1, (applyByFile m false rest).2.map ((path, 0) :: ·))
      else (m, .error e) := by
  cases edits with
  | nil => exact absurd rfl hedits
  | cons sent edits => simp only [applyByFile, h]

/-- A file whose edits do not end the run is served, and the run goes on behind it. -/
theorem applyByFile_cons (m : FileMap) (path : String)
    (hplain : ∀ sent ∈ edits, sent.isPlain = true) (hhalt : halt? edits = none) :
    ∃ m', Served m [(path, edits)] m' ∧ ∀ rest, applyByFile m false ((path, edits) :: rest) =
      ((applyByFile m' false rest).1,
        (applyByFile m' false rest).2.map (summaryOf m [(path, edits)] ++ ·)) := by
  by_cases hedits : edits = []
  · subst hedits
    refine ⟨m, .of_same (by rw [outcome_nil]), ?_⟩
    intro rest
    show applyByFile m false rest = _
    generalize applyByFile m false rest = run
    obtain ⟨files, summary⟩ := run
    cases summary <;> rfl
  have hsummary : summaryOf m [(path, edits)] =
      [(path, (outcome edits (m.read? path)).2)] := by
    cases edits with
    | nil => exact absurd rfl hedits
    | cons sent edits => rfl
  rcases requests_of_plain hplain with
    ⟨es, hes, -, hrequests⟩ | ⟨hes, -, start, stop, hrequests⟩ | ⟨name, -, hname, -⟩
  · have hrun := applyToFile_eq m path false hrequests
    cases hread : m.read? path with
    | none =>
      rw [hread] at hrun
      refine ⟨m, .of_same (by rw [hread, outcome_missing]), ?_⟩
      intro rest
      rw [applyByFile_cons_of_ok hedits hrun, hsummary, hread, outcome_missing]
      rfl
    | some content =>
      rw [hread] at hrun
      dsimp only at hrun
      rw [applyRequests_map] at hrun
      have houtcome : outcome edits (some content) =
          (some (applyBatch content es).1, (applyBatch content es).2) := by
        unfold outcome
        rw [hes]
      refine ⟨m.write path (applyBatch content es).1, .of_write hread ?_, ?_⟩
      · rw [hread, houtcome]
      · intro rest
        rw [applyByFile_cons_of_ok hedits hrun, hsummary, hread, houtcome]
        rfl
  · have hrun := applyToFile_of_error m path false hrequests
    refine ⟨m, .of_same (by rw [outcome_unbuilt hes]), ?_⟩
    intro rest
    rw [applyByFile_cons_of_error hedits hrun, hsummary, outcome_unbuilt hes]
    rfl
  · rw [hhalt] at hname
    cases hname

theorem applyByFile_halt (m : FileMap) (path : String) {name : String}
    (hplain : ∀ sent ∈ edits, sent.isPlain = true) (hhalt : halt? edits = some name)
    (rest : List (String × List SentEdit)) :
    applyByFile m false ((path, edits) :: rest) = (m, .error (.missingField name)) := by
  have hedits : edits ≠ [] := by
    rintro rfl
    cases hhalt
  rcases requests_of_plain hplain with
    ⟨-, -, hname, -⟩ | ⟨-, hname, -⟩ | ⟨other, -, hname, hrequests⟩
  · rw [hhalt] at hname
    cases hname
  · rw [hhalt] at hname
    cases hname
  · rw [hhalt] at hname
    obtain rfl := Option.some.inj hname
    rw [applyByFile_cons_of_error hedits (applyToFile_of_error m path false hrequests)]
    rfl

/-! ## The run -/

/-- A run over the plain edits of different files serves each file, whatever is wrong with others,
up to the first whose edits lack a field. Without such a file it answers what every file counts
alone. With one it ends there: the files in front are served, that file and those behind it stay as
they were, and there is no summary. -/
theorem applyByFile_up_to_halt (hdistinct : DistinctFiles m batch)
    (hplain : ∀ entry ∈ batch, ∀ sent ∈ entry.2, sent.isPlain = true) :
    ∃ done rest, batch = done ++ rest ∧ (∀ entry ∈ done, halt? entry.2 = none) ∧
      Served m done (applyByFile m false batch).1 ∧
      (∀ entry ∈ rest, (applyByFile m false batch).1.read? entry.1 = m.read? entry.1) ∧
      ((rest = [] ∧ (applyByFile m false batch).2 = .ok (summaryOf m batch)) ∨
        ∃ path edits later name, rest = (path, edits) :: later ∧ halt? edits = some name ∧
          (applyByFile m false batch).2 = .error (.missingField name)) := by
  induction batch generalizing m with
  | nil => exact ⟨[], [], rfl, by simp, .nil m, by simp, .inl ⟨rfl, rfl⟩⟩
  | cons entry batch ih =>
    obtain ⟨path, edits⟩ := entry
    obtain ⟨hapart, hlater⟩ := List.pairwise_cons.mp hdistinct
    have hedits : ∀ sent ∈ edits, sent.isPlain = true := hplain _ List.mem_cons_self
    cases hhalt : halt? edits with
    | some name =>
      rw [applyByFile_halt m path hedits hhalt]
      refine ⟨[], (path, edits) :: batch, rfl, by simp, .nil m, fun _ _ => rfl, .inr ?_⟩
      exact ⟨path, edits, batch, name, rfl, hhalt, rfl⟩
    | none =>
      obtain ⟨m', hfirst, hrun⟩ := applyByFile_cons m path hedits hhalt
      have hsame : ∀ other ∈ batch, m'.read? other.1 = m.read? other.1 := by
        intro other hother
        refine hfirst.read?_of_apart ?_
        intro first hmem
        rw [List.mem_singleton.mp hmem]
        exact hapart other hother
      obtain ⟨done, rest, rfl, hdone, hserved, hrest, hend⟩ :=
        ih (DistinctFiles.of_places hlater hfirst.places) fun other hother =>
          hplain other (List.mem_cons_of_mem _ hother)
      rw [hrun]
      refine ⟨(path, edits) :: done, rest, rfl, ?_, ?_, ?_, ?_⟩
      · intro other hother
        rcases List.mem_cons.mp hother with rfl | hother
        · exact hhalt
        · exact hdone other hother
      · refine hfirst.cons hserved ?_
        intro other hother
        exact hapart other (List.mem_append_left _ hother)
      · intro other hother
        rw [hrest other hother, hsame other (List.mem_append_right _ hother)]
      · rcases hend with ⟨rfl, hsummary⟩ | ⟨here, found, later, name, rfl, hname, herror⟩
        · refine .inl ⟨rfl, ?_⟩
          rw [hsummary, summaryOf_congr hsame, summaryOf_cons m (path, edits) (done ++ [])]
          rfl
        · refine .inr ⟨here, found, later, name, rfl, hname, ?_⟩
          rw [herror]
          rfl

def trio : FileMap :=
  ⟨[(["a.js"], encode "ab"), (["b.js"], encode "cd"), (["c.js"], encode "ef")], []⟩

def firstByte (text : String) : Edit where
  start := 0
  stop := 1
  text := text

/-- An edit for each of three files, the second of which has no text. -/
def trioBatch : List (String × List SentEdit) :=
  [("a.js", [.ready (.ofEdit (firstByte "x"))]),
    ("b.js", [.object [("start_byte", .int 0), ("end_byte", .int 1)]]),
    ("c.js", [.ready (.ofEdit (firstByte "y"))])]

/-- The first file is written, and the run ends at the second. The third stays as it is, although
its edit alone would have made something of it. -/
theorem applyByFile_up_to_halt_trio :
    DistinctFiles trio trioBatch ∧
      (∀ entry ∈ trioBatch, ∀ sent ∈ entry.2, sent.isPlain = true) ∧
      (∃ done rest, trioBatch = done ++ rest ∧
        Served trio done (applyByFile trio false trioBatch).1 ∧
        ∀ entry ∈ rest, (applyByFile trio false trioBatch).1.read? entry.1 = trio.read? entry.1) ∧
      (applyByFile trio false trioBatch).1.read? "a.js" = some (encode "xb") ∧
      (applyByFile trio false trioBatch).1.read? "c.js" = some (encode "ef") ∧
      (applyByFile trio false trioBatch).2 = .error (.missingField "text") ∧
      outcome [.ready (.ofEdit (firstByte "y"))] (trio.read? "c.js") =
        (some (encode "yf"), 1) := by
  have hdistinct : DistinctFiles trio trioBatch := by decide +kernel
  have hplain : ∀ entry ∈ trioBatch, ∀ sent ∈ entry.2, sent.isPlain = true := by decide +kernel
  obtain ⟨done, rest, hbatch, -, hserved, hrest, -⟩ := applyByFile_up_to_halt hdistinct hplain
  refine ⟨hdistinct, hplain, ⟨done, rest, hbatch, hserved, hrest⟩, ?_, ?_, ?_, ?_⟩
  · decide +kernel
  · decide +kernel
  · decide +kernel
  · decide +kernel

end TruncIdiom.Workspace
