import TruncIdiom.Proofs.Session.Outcome
import TruncIdiom.Proofs.Workspace.FileBatch
import TruncIdiom.Proofs.Lint.Exactness

/-!
What a dry run tells of the run itself.

Fixing a file, applying a batch and fixing a whole file in a session all have a dry run, which
changes nothing. `dryRun_predicts` says that it comes to the same as the run: the same result, the
same summary, the same text but for the label of one row. Errors on the way are the same as well.
-/

namespace TruncIdiom.Session

open Text Json Rule Lint Workspace

/-! ## The text of a run over a file -/

def rowsBefore (path : String) (before : LintResult) : String :=
  "## Fix All — `" ++ path ++ "`\n\n" ++ "| Metric | Count |\n|--------|-------|\n" ++
    "| Diagnostics before | " ++ toString before.messages.length ++ " |\n"

def rowsFrom (result : FixResult) : String :=
  toString result.applied ++ " |\n" ++ "| Passes | " ++ toString result.passes ++ " |\n" ++
    "| Remaining | " ++ toString result.messages.length ++ " |\n" ++ remainingTable result.messages

def appliedLabel (dryRun : Bool) : String :=
  if dryRun then "| Would fix | " else "| Fixes applied | "

theorem fixAllText_eq (path : String) (before : LintResult) (result : FixResult) (dryRun : Bool) :
    fixAllText path before result dryRun =
      rowsBefore path before ++ appliedLabel dryRun ++ rowsFrom result := by
  unfold fixAllText metricsTable rowsBefore rowsFrom appliedLabel
  simp only [String.append_assoc]

/-- Replies to a dry run and to the run itself that differ in the label of a row at most. -/
inductive SameButLabel (path : String) : Reply → Reply → Prop
  | same (reply : Reply) : SameButLabel path reply reply
  | label (before : LintResult) (result : FixResult) : SameButLabel path
      (.ok (rowsBefore path before ++ appliedLabel true ++ rowsFrom result))
      (.ok (rowsBefore path before ++ appliedLabel false ++ rowsFrom result))

theorem fixAll_dry (s : Session) (parser : Syntax.Parser) (path : String) :
    (s.fixAll parser path true).2 = s ∧
      SameButLabel path (s.fixAll parser path true).1 (s.fixAll parser path false).1 := by
  unfold fixAll
  rcases withRoot_cases s with hnone | ⟨root, -, hsome⟩
  · rw [hnone, hnone]
    exact ⟨rfl, .same _⟩
  rw [hsome, hsome]
  dsimp only
  cases s.files.isFile (root.resolve path) with
  | false =>
    simp only [Bool.not_false, if_true]
    exact ⟨rfl, .same _⟩
  | true =>
    simp only [Bool.not_true, Bool.false_eq_true, if_false]
    generalize lintFile (s.linter parser) s.files (root.resolve path) = before
    cases before.messages.find? (·.fatal) with
    | some fatal =>
      dsimp only
      exact ⟨rfl, .same _⟩
    | none =>
      dsimp only
      rw [fixFile_dry]
      cases fixFile (s.linter parser) s.files (root.resolve path) false with
      | error e => exact ⟨rfl, .same (.error e)⟩
      | ok fixed =>
        refine ⟨rfl, ?_⟩
        have hlabel : SameButLabel path _ _ := .label before fixed.1
        rw [← fixAllText_eq, ← fixAllText_eq] at hlabel
        exact hlabel

/-! ## All dry runs -/

/-- A dry run predicts the run itself and touches nothing: over a file, whose run writes the output
of its result there and changes no other; over a batch for different files; and over a file in a
session. -/
theorem dryRun_predicts (s : Session) (parser : Syntax.Parser) (linter : Linter) (m : FileMap)
    (path : String) {batch : List (String × List SentEdit)} (hbatch : DistinctFiles m batch) :
    (fixFile linter m path true =
        (fixFile linter m path false).map fun result => (result.1, m)) ∧
      (∀ result m', fixFile linter m path false = .ok (result, m') →
        (∀ place, m.placeOf? path ≠ some place → m'.get? place = m.get? place) ∧
          m'.read? path =
            if result.fixed then some (encode result.output) else m.read? path) ∧
      applyByFile m true batch = (m, (applyByFile m false batch).2) ∧
      (s.fixAll parser path true).2 = s ∧
      SameButLabel path (s.fixAll parser path true).1 (s.fixAll parser path false).1 := by
  refine ⟨fixFile_dry linter m path, ?_, applyByFile_dry hbatch, fixAll_dry s parser path⟩
  intro result m' h
  exact fixFile_leaves h

def pair : FileMap := ⟨[(["a.js"], encode "~~a"), (["b.js"], encode "b|0")], []⟩

/-- Two edits of one file that overlap, one of a file that is missing, and one of the other file. -/
def pairBatch : List (String × List SentEdit) :=
  let edit (start stop : Int) (text : String) : SentEdit :=
    .object [("start_byte", .int start), ("end_byte", .int stop), ("text", .string text)]
  [("a.js", [edit 0 2 "!!", edit 1 3 "c"]), ("c.js", [edit 0 0 "c"]), ("./b.js", [edit 1 3 ""])]

/-- The batch writes both files, and so does fixing the first; the dry runs tell the same and leave
the files. -/
theorem dryRun_predicts_pair :
    let s : Session := { files := pair, root := some ⟨".", .int 100⟩ }
    DistinctFiles pair pairBatch ∧
      applyByFile pair true pairBatch = (pair, (applyByFile pair false pairBatch).2) ∧
      (applyByFile pair false pairBatch).2.toOption =
        some [("a.js", 1), ("c.js", 0), ("./b.js", 1)] ∧
      (applyByFile pair false pairBatch).1.read? "a.js" = some (encode "~c") ∧
      (applyByFile pair false pairBatch).1.read? "b.js" = some (encode "b") ∧
      (s.fixAll Script.parse "a.js" true).2 = s ∧
      (s.fixAll Script.parse "a.js" false).2.files.read? "a.js" =
        some (encode "Math.trunc(a)") ∧
      SameButLabel "a.js" (s.fixAll Script.parse "a.js" true).1
        (s.fixAll Script.parse "a.js" false).1 := by
  intro s
  have hdistinct : DistinctFiles pair pairBatch := by decide +kernel
  obtain ⟨-, -, hbatch, hsession, hreplies⟩ :=
    dryRun_predicts s Script.parse scriptLinter pair "a.js" hdistinct
  refine ⟨hdistinct, hbatch, ?_, ?_, ?_, hsession, ?_, hreplies⟩
  · decide +kernel
  · decide +kernel
  · decide +kernel
  · decide +kernel

end TruncIdiom.Session
