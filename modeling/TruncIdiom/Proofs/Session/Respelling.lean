import Mathlib.Data.List.Forall2
import TruncIdiom.Proofs.Session.Outcome

/-!
A session does not see which separators a client writes.

A path may be written with slashes, with backslashes or with both. Files are found by the path with
slashes only, and marks are kept by it, so two runs of calls that differ in the separators of their
paths go through the same sessions (`run_respelled`). Replies quote a path as it was written and are
the same otherwise; the table of a report is the same row by row, marks included.
-/

namespace TruncIdiom.Workspace

/-! ## Spellings of a path -/

/-- Whether a character stands between two names of a path. -/
def IsSeparator (c : Char) : Prop := c = '/' ∨ c = '\\'

instance : DecidablePred IsSeparator := fun _ => inferInstanceAs (Decidable (_ ∨ _))

/-- Whether two paths are the same but for the separators they are written with. -/
def Respelled (path path' : String) : Prop :=
  List.Forall₂ (fun c c' => c = c' ∨ IsSeparator c ∧ IsSeparator c') path.toList path'.toList

instance (path path' : String) : Decidable (Respelled path path') :=
  inferInstanceAs (Decidable (List.Forall₂ _ _ _))

theorem separators_alike_iff (c c' : Char) :
    (c = c' ∨ IsSeparator c ∧ IsSeparator c') ↔
      (if c = '\\' then '/' else c) = if c' = '\\' then '/' else c' := by
  unfold IsSeparator
  split <;> split <;> grind

/-- Spellings of one path are those that come to the same with slashes only. -/
theorem respelled_iff {path path' : String} :
    Respelled path path' ↔ withSlashes path = withSlashes path' := by
  rw [withSlashes, withSlashes, ← String.toList_inj, String.toList_map, String.toList_map,
    ← List.forall₂_eq_eq_eq, List.forall₂_map_left_iff, List.forall₂_map_right_iff]
  simp only [Respelled, separators_alike_iff]

theorem resolvePath_respelled {path path' : String} (h : Respelled path path') (root : String) :
    resolvePath root path = resolvePath root path' := by
  rw [resolvePath, respelled_iff.mp h, resolvePath]

end TruncIdiom.Workspace

namespace TruncIdiom.Session

open Text Syntax Rule Json Lint Workspace

variable {s : Session} {parser : Parser} {root : Root} {path path' : String} {line : Int}

/-! ## What is read by a path -/

theorem resolve_respelled (h : Respelled path path') (root : Root) :
    root.resolve path = root.resolve path' := resolvePath_respelled h root.path

theorem findAmong_respelled (h : Respelled path path') (line : Int) (messages : List Message) :
    findAmong path line messages = findAmong path' line messages := by
  unfold findAmong nearestHint
  rw [respelled_iff.mp h]

theorem find_respelled (h : Respelled path path') (s : Session) (parser : Parser) (root : Root)
    (line : Int) : s.find parser root path line = s.find parser root path' line := by
  rw [find, find, findAmong_respelled h, resolve_respelled h]

theorem markKey_respelled (h : Respelled path path') (m : Message) :
    MarkKey.of path m = MarkKey.of path' m := by
  rw [MarkKey.of, respelled_iff.mp h, MarkKey.of]

theorem statusOf_respelled (h : Respelled path path') (marks : Marks) (m : Message) :
    marks.statusOf path m = marks.statusOf path' m := by
  rw [Marks.statusOf, markKey_respelled h, Marks.statusOf]

theorem statusRow_respelled (h : Respelled path path') (marks : Marks) :
    statusRow marks path = statusRow marks path' := by
  funext m
  unfold statusRow
  rw [statusOf_respelled h]

theorem putFixed_respelled (h : Respelled path path') (marks : Marks) (m : Message) :
    marks.putFixed path m = marks.putFixed path' m := by
  rw [Marks.putFixed, markKey_respelled h, Marks.putFixed]

theorem markFixed_respelled (h : Respelled path path') (marks : Marks) (before : List Message) :
    markFixed marks path before = markFixed marks path' before := by
  simp only [markFixed, putFixed_respelled h]

theorem isAt_respelled (h : Respelled path path') (line : Int) :
    Marks.isAt path line = Marks.isAt path' line := by
  funext key
  rw [Marks.isAt, respelled_iff.mp h, Marks.isAt]

theorem settle_respelled (h : Respelled path path') (marks : Marks) (line : Int) (mark : Mark) :
    marks.settle path line mark = marks.settle path' line mark := by
  unfold Marks.settle
  rw [isAt_respelled h]

theorem noFixReason_respelled (h : Respelled path path') (s : Session) (parser : Parser)
    (root : Root) (m : Message) :
    s.noFixReason parser root path m = s.noFixReason parser root path' m := by
  unfold noFixReason culprit
  rw [resolve_respelled h]

theorem proposal_respelled (h : Respelled path path') (s : Session) (parser : Parser) (root : Root)
    (found : Found) (context : String) :
    s.proposal parser root path found context = s.proposal parser root path' found context := by
  simp only [proposal, resolve_respelled h, noFixReason_respelled h]

/-- The lines around a diagnostic do not name the file, when it can be read. -/
theorem codeContext_respelled (h : Respelled path path') {content : Bytes}
    (hcontent : s.files.readSource? (root.resolve path) = some content) (limit : Value)
    (target reach : Int) (withNumbers : Bool) :
    codeContext s.files root.path limit path target reach withNumbers =
      codeContext s.files root.path limit path' target reach withNumbers := by
  have hcontent' := resolve_respelled h root ▸ hcontent
  rw [Root.resolve] at hcontent hcontent'
  unfold codeContext
  rw [hcontent, hcontent']

/-! ## Replies that quote a path -/

/-- Texts that are the same but for one place, where each quotes its own path. -/
def TextsAlike (path path' text text' : String) : Prop :=
  ∃ before after, text = before ++ path ++ after ∧ text' = before ++ path' ++ after

namespace TextsAlike

variable {text text' : String}

theorem self : TextsAlike path path' path path' := ⟨"", "", by simp, by simp⟩

theorem prepend (front : String) (h : TextsAlike path path' text text') :
    TextsAlike path path' (front ++ text) (front ++ text') := by
  obtain ⟨before, after, rfl, rfl⟩ := h
  exact ⟨front ++ before, after, by simp only [String.append_assoc],
    by simp only [String.append_assoc]⟩

theorem append (h : TextsAlike path path' text text') (back : String) :
    TextsAlike path path' (text ++ back) (text' ++ back) := by
  obtain ⟨before, after, rfl, rfl⟩ := h
  exact ⟨before, after ++ back, by simp only [String.append_assoc],
    by simp only [String.append_assoc]⟩

end TextsAlike

/-- Replies that are the same, or are so but for the path that each quotes. -/
inductive RepliesAlike : Option String → Option String → Reply → Reply → Prop
  | same {path? path'? : Option String} (reply : Reply) : RepliesAlike path? path'? reply reply
  | quoting {path path' text text' : String} : TextsAlike path path' text text' →
      RepliesAlike (some path) (some path') (.ok text) (.ok text')

structure OutcomesAlike (path path' : String) (outcome outcome' : Outcome) : Prop where
  session : outcome.2 = outcome'.2
  reply : RepliesAlike (some path) (some path') outcome.1 outcome'.1

namespace OutcomesAlike

theorem refl (outcome : Outcome) : OutcomesAlike path path' outcome outcome := ⟨rfl, .same _⟩

theorem say {text text' : String} (s : Session) (h : TextsAlike path path' text text') :
    OutcomesAlike path path' (s.say text) (s.say text') := ⟨rfl, .quoting h⟩

theorem withRoot {call call' : Root → Outcome}
    (h : ∀ root, OutcomesAlike path path' (call root) (call' root)) :
    OutcomesAlike path path' (s.withRoot call) (s.withRoot call') := by
  rw [Session.withRoot, Session.withRoot]
  cases s.root with
  | none => exact .refl _
  | some root => exact h root

theorem after {α : Type} {call call' : α → Outcome} (step : Except ConfigError α)
    (h : ∀ a, OutcomesAlike path path' (call a) (call' a)) :
    OutcomesAlike path path' (s.after step call) (s.after step call') := by
  cases step with
  | error e => exact .refl _
  | ok a => exact h a

end OutcomesAlike

/-! ## Each call -/

theorem fileNotFound_alike : TextsAlike path path' (fileNotFound path) (fileNotFound path') :=
  .prepend _ .self

theorem propose_alike (h : Respelled path path') :
    OutcomesAlike path path' (s.propose parser path line) (s.propose parser path' line) := by
  refine .withRoot fun root => ?_
  rw [← find_respelled h]
  cases hfound : s.find parser root path line with
  | error reason => exact .refl _
  | ok found =>
    obtain ⟨content, hcontent, -⟩ := of_find hfound
    dsimp only
    rw [codeContext_respelled h hcontent]
    refine .after _ fun context => ?_
    rw [proposal_respelled h]
    exact .refl _

theorem appliedText_alike (found : Found) (edit : Edit) :
    TextsAlike path path' (appliedText path found edit) (appliedText path' found edit) := by
  unfold appliedText
  repeat refine TextsAlike.append ?_ _
  exact .prepend _ .self

theorem applyFix_alike (h : Respelled path path') (accept : Bool) :
    OutcomesAlike path path' (s.applyFix parser path line accept)
      (s.applyFix parser path' line accept) := by
  refine .withRoot fun root => ?_
  rw [find_respelled h]
  cases s.find parser root path' line with
  | error reason => exact .refl _
  | ok found =>
    dsimp only
    cases chosenEdit? found.message accept with
    | none =>
      rw [noFixReason_respelled h]
      exact .refl _
    | some edit =>
      simp only [applyFound, resolve_respelled h, putFixed_respelled h]
      cases editedContent parser ((s.files.read? (root.resolve path')).getD []) edit with
      | error rejection => exact .refl _
      | ok output => exact .say _ (appliedText_alike found edit)

theorem stillPresentText_alike (line : Int) (remaining : List Message) :
    TextsAlike path path' (stillPresentText path line remaining)
      (stillPresentText path' line remaining) := by
  unfold stillPresentText
  repeat refine TextsAlike.append ?_ _
  exact .prepend _ .self

theorem verifyFix_alike (h : Respelled path path') :
    OutcomesAlike path path' (s.verifyFix parser path line) (s.verifyFix parser path' line) := by
  refine .withRoot fun root => ?_
  simp only [resolve_respelled h, settle_respelled h]
  split
  · exact .say _ (.append (.append (.prepend _ .self) _) _)
  · split
    · exact .say _ (.append (.append (.append (.prepend _ .self) _) _) _)
    · exact .say _ (stillPresentText_alike line _)

theorem fixAllText_alike (before : LintResult) (result : FixResult) (dryRun : Bool) :
    TextsAlike path path' (fixAllText path before result dryRun)
      (fixAllText path' before result dryRun) := by
  unfold fixAllText
  repeat refine TextsAlike.append ?_ _
  exact .prepend _ .self

theorem fixAll_alike (h : Respelled path path') (dryRun : Bool) :
    OutcomesAlike path path' (s.fixAll parser path dryRun) (s.fixAll parser path' dryRun) := by
  refine .withRoot fun root => ?_
  simp only [resolve_respelled h, markFixed_respelled h]
  split
  · exact .say _ fileNotFound_alike
  · split
    · exact .say _ (.append (.append (.prepend _ .self) _) _)
    · exact .after _ fun _ => .say _ (fixAllText_alike _ _ _)

/-! ## Reports row by row -/

/-- The replies to a report on a file whose path is written in two ways. Where they are tables, these
show the same rows. -/
inductive ReportsAlike (marks marks' : Marks) (path path' : String) : Reply → Reply → Prop
  | uninitialised :
      ReportsAlike marks marks' path path' (.ok notInitialised) (.ok notInitialised)
  | missing : ReportsAlike marks marks' path path' (.ok (fileNotFound path))
      (.ok (fileNotFound path'))
  | clean : ReportsAlike marks marks' path path' (.ok ("No diagnostics in `" ++ path ++ "`."))
      (.ok ("No diagnostics in `" ++ path' ++ "`."))
  | broken (m : Message) : ReportsAlike marks marks' path path'
      (.ok ("**" ++ path ++ "** — " ++ m.text ++ " at line " ++ toString m.position.line ++
        ", column " ++ toString m.position.column ++ "."))
      (.ok ("**" ++ path' ++ "** — " ++ m.text ++ " at line " ++ toString m.position.line ++
        ", column " ++ toString m.position.column ++ "."))
  | table {result : LintResult} (rows : List String) :
      result.messages.map (statusRow marks path) = rows →
      result.messages.map (statusRow marks' path') = rows →
      ReportsAlike marks marks' path path' (.ok (diagnosticsTable marks path result))
        (.ok (diagnosticsTable marks' path' result))

theorem lintReport_alike (h : Respelled path path') (marks : Marks) (result : LintResult) :
    ReportsAlike marks marks path path' (.ok (lintReport marks path result))
      (.ok (lintReport marks path' result)) := by
  unfold lintReport
  split
  · exact .clean
  · next m rest hmessages =>
    split
    · exact .broken m
    · exact .table _ rfl (by rw [statusRow_respelled h])

theorem reportFile_alike (h : Respelled path path') :
    ReportsAlike s.marks s.marks path path' (s.reportFile parser path).1
      (s.reportFile parser path').1 := by
  rw [reportFile, reportFile]
  rcases withRoot_cases s with hnone | ⟨root, -, hsome⟩
  · rw [hnone, hnone]
    exact .uninitialised
  · rw [hsome, hsome]
    simp only [resolve_respelled h]
    split
    · exact .missing
    · exact lintReport_alike h _ _

theorem ReportsAlike.replies {marks marks' : Marks} {reply reply' : Reply}
    (h : ReportsAlike marks marks' path path' reply reply') :
    RepliesAlike (some path) (some path') reply reply' := by
  cases h with
  | uninitialised => exact .same _
  | missing => exact .quoting fileNotFound_alike
  | clean => exact .quoting (.append (.prepend _ .self) _)
  | broken m =>
    refine .quoting ?_
    repeat refine TextsAlike.append ?_ _
    exact .prepend _ .self
  | table rows hrows hrows' =>
    refine .quoting ?_
    unfold diagnosticsTable
    rw [hrows, hrows']
    repeat refine TextsAlike.append ?_ _
    exact .prepend _ .self

/-! ## Every call -/

/-- The path of a file that a call names. That of a workspace is none. -/
def Call.filePath? : Call → Option String
  | .reportFile path | .propose path _ | .applyFix path _ _ | .verifyFix path _ | .fixAll path _ =>
    some path
  | .setWorkspace _ | .configure _ _ _ | .explainRule _ => none

/-- Calls that are the same but for the spelling of the path of a file. -/
inductive Call.Respelled : Call → Call → Prop
  | same (call : Call) : Respelled call call
  | reportFile {path path' : String} : Workspace.Respelled path path' →
      Respelled (.reportFile path) (.reportFile path')
  | propose {path path' : String} {line : Int} : Workspace.Respelled path path' →
      Respelled (.propose path line) (.propose path' line)
  | applyFix {path path' : String} {line : Int} {accept : Bool} : Workspace.Respelled path path' →
      Respelled (.applyFix path line accept) (.applyFix path' line accept)
  | verifyFix {path path' : String} {line : Int} : Workspace.Respelled path path' →
      Respelled (.verifyFix path line) (.verifyFix path' line)
  | fixAll {path path' : String} {dryRun : Bool} : Workspace.Respelled path path' →
      Respelled (.fixAll path dryRun) (.fixAll path' dryRun)

theorem call_respelled {call call' : Call} (h : call.Respelled call') :
    (s.call parser call).2 = (s.call parser call').2 ∧
      RepliesAlike call.filePath? call'.filePath? (s.call parser call).1
        (s.call parser call').1 := by
  cases h with
  | same => exact ⟨rfl, .same _⟩
  | reportFile h =>
    exact ⟨by rw [Session.call, Session.call, snd_reportFile, snd_reportFile],
      (reportFile_alike h).replies⟩
  | propose h => exact ⟨(propose_alike h).session, (propose_alike h).reply⟩
  | applyFix h => exact ⟨(applyFix_alike h _).session, (applyFix_alike h _).reply⟩
  | verifyFix h => exact ⟨(verifyFix_alike h).session, (verifyFix_alike h).reply⟩
  | fixAll h => exact ⟨(fixAll_alike h _).session, (fixAll_alike h _).reply⟩

/-! ## Runs -/

/-- Events that are the same but for the spelling of the path of a file in a call. -/
inductive Event.Respelled : Event → Event → Prop
  | same (event : Event) : Respelled event event
  | call {call call' : Call} : call.Respelled call' → Respelled (.call call) (.call call')

theorem next_respelled {event event' : Event} (h : event.Respelled event') :
    s.next parser event = s.next parser event' := by
  cases h with
  | same => rfl
  | call h => exact (call_respelled h).1

theorem run_eq_of_respelled {events events' : List Event}
    (h : List.Forall₂ Event.Respelled events events') :
    s.run parser events = s.run parser events' := by
  induction h generalizing s with
  | nil => rfl
  | cons hevent _ ih =>
    rw [run, run, List.foldl_cons, List.foldl_cons, next_respelled hevent]
    exact ih

theorem Event.Respelled.of_call {call call' : Call}
    (h : Event.Respelled (.call call) (.call call')) : call.Respelled call' := by
  cases h with
  | same => exact .same _
  | call h => exact h

theorem Call.Respelled.of_reportFile
    (h : Call.Respelled (.reportFile path) (.reportFile path')) : Workspace.Respelled path path' := by
  cases h with
  | same => exact respelled_iff.mpr rfl
  | reportFile h => exact h

/-- Two runs of events whose calls differ in nothing but the separators of the paths of files are in
the same session after each event: the files, the configuration, the workspace and the marks are the
same. The replies to each call are the same but for the path that they quote, and reports show the
same rows with the same marks. -/
theorem run_respelled (s : Session) (parser : Parser) {events events' : List Event}
    (h : List.Forall₂ Event.Respelled events events') (n : Nat) :
    let now := s.run parser (events.take n)
    let now' := s.run parser (events'.take n)
    now = now' ∧
      (∀ call call', events[n]? = some (.call call) → events'[n]? = some (.call call') →
        RepliesAlike call.filePath? call'.filePath? (now.call parser call).1
          (now'.call parser call').1) ∧
      ∀ path path', events[n]? = some (.call (.reportFile path)) →
        events'[n]? = some (.call (.reportFile path')) →
        ReportsAlike now.marks now'.marks path path' (now.call parser (.reportFile path)).1
          (now'.call parser (.reportFile path')).1 := by
  intro now now'
  have hnow : now = now' := run_eq_of_respelled (List.forall₂_take n h)
  have hcalls : ∀ call call', events[n]? = some (.call call) →
      events'[n]? = some (.call call') → call.Respelled call' := by
    intro call call' hcall hcall'
    obtain ⟨hn, hget⟩ := List.getElem?_eq_some_iff.mp hcall
    obtain ⟨hn', hget'⟩ := List.getElem?_eq_some_iff.mp hcall'
    have hevent := h.get hn hn'
    rw [List.get_eq_getElem, List.get_eq_getElem, hget, hget'] at hevent
    exact hevent.of_call
  refine ⟨hnow, ?_, ?_⟩
  · intro call call' hcall hcall'
    rw [← hnow]
    exact (call_respelled (hcalls call call' hcall hcall')).2
  · intro path path' hcall hcall'
    rw [← hnow]
    exact reportFile_alike (hcalls _ _ hcall hcall').of_reportFile

/-- A session over one file, with a diagnostic on its line. -/
def reportedFile : Session := start ⟨[(["d", "a"], encode "~~~~a")], []⟩

/-- A fix that leaves the diagnostic on its line, and a report on the file. -/
def fixedThenReported (path path' : String) : List Event := [
  .call (.setWorkspace "."), .call (.applyFix path 1 false), .call (.reportFile path')]

def fixedAt (path path' : String) : Session :=
  reportedFile.run Script.parse ((fixedThenReported path path').take 2)

/-- The mark that was put through one spelling of the path is shown through the other. -/
theorem run_respelled_backslash :
    List.Forall₂ Event.Respelled (fixedThenReported "d/a" "d\\a")
        (fixedThenReported "d\\a" "d/a") ∧
      fixedAt "d/a" "d\\a" = fixedAt "d\\a" "d/a" ∧
      (fixedAt "d\\a" "d/a").marks.map (fun entry => (entry.1.path, entry.2)) =
        [("d/a", .fixed)] ∧
      ReportsAlike (fixedAt "d/a" "d\\a").marks (fixedAt "d\\a" "d/a").marks "d\\a" "d/a"
        ((fixedAt "d/a" "d\\a").call Script.parse (.reportFile "d\\a")).1
        ((fixedAt "d\\a" "d/a").call Script.parse (.reportFile "d/a")).1 := by
  have hspelled : Respelled "d/a" "d\\a" := by decide +kernel
  have hspelled' : Respelled "d\\a" "d/a" := by decide +kernel
  have hevents : List.Forall₂ Event.Respelled (fixedThenReported "d/a" "d\\a")
      (fixedThenReported "d\\a" "d/a") :=
    .cons (.same _) (.cons (.call (.applyFix hspelled)) (.cons (.call (.reportFile hspelled')) .nil))
  have hmarks : (fixedAt "d\\a" "d/a").marks.map (fun entry => (entry.1.path, entry.2)) =
      [("d/a", .fixed)] := by
    decide +kernel
  have hruns := run_respelled reportedFile Script.parse hevents 2
  exact ⟨hevents, hruns.1, hmarks, hruns.2.2 "d\\a" "d/a" rfl rfl⟩

end TruncIdiom.Session
