import TruncIdiom.Proofs.Session.LifeCycle

/-!
What a confirmation has seen.

A line is confirmed when linting the file again gives no message for it and no fatal one. Where the
file is a source and something is reported at all, this says that its tree has no error and no
diagnostic stands on the line. A file that is gone, or is no source, gives no messages either, and
neither does any file when nothing is reported; then the line is confirmed although nothing was seen
(`verifyFix_confirms_iff`, `verifyFix_confirms_erased`).
-/

namespace TruncIdiom.Session

open Text Syntax Rule Lint Workspace

variable {s : Session} {parser : Parser} {root : Root} {path : String} {line : Int}
  {key : MarkKey} {reply : Reply}

def Confirms (reply : Reply) : Prop := ∃ text, reply = .ok ("**VERIFIED**" ++ text)

theorem getElem?_toList_append {a : String} {i : Nat} {c : Char} (h : a.toList[i]? = some c)
    (b : String) : (a ++ b).toList[i]? = some c := by
  obtain ⟨hi, -⟩ := List.getElem?_eq_some_iff.mp h
  rw [String.toList_append, List.getElem?_append_left hi, h]

theorem confirms_verifiedText (path : String) (line : Int) :
    Confirms (.ok (verifiedText path line)) := by
  have hhead : "**VERIFIED** — no diagnostics remain at `" =
      "**VERIFIED**" ++ " — no diagnostics remain at `" := by decide +kernel
  unfold verifiedText
  -- The number is taken out first: nothing here is to compute its digits.
  generalize toString line = shown
  refine ⟨" — no diagnostics remain at `" ++ (path ++ (":" ++ (shown ++ "`."))), ?_⟩
  rw [hhead]
  simp only [String.append_assoc]

/-- A reply with another letter behind its stars confirms nothing. -/
theorem not_confirms_of_letter {text : String} {c : Char} (h : text.toList[2]? = some c)
    (hc : c ≠ 'V') : ¬ Confirms (.ok text) := by
  rintro ⟨rest, hrest⟩
  have hletter : ("**VERIFIED**" ++ rest).toList[2]? = some 'V' := getElem?_toList_append rfl rest
  rw [← Except.ok.inj hrest, h] at hletter
  exact hc (Option.some.inj hletter)

/-- Whether linting a file again leaves nothing to object to on a line. -/
def Unobjected (s : Session) (parser : Parser) (root : Root) (path : String) (line : Int) : Prop :=
  ∀ m ∈ s.messagesFor parser root path, m.fatal = false ∧ (m.position.line : Int) ≠ line

theorem unobjected_iff :
    Unobjected s parser root path line ↔
      ∀ content, s.files.readSource? (root.resolve path) = some content →
        (s.config.enabled = true → (parser content).hasError = false) ∧
          ∀ m ∈ (s.linter parser).messages content, (m.position.line : Int) ≠ line := by
  rw [Unobjected]
  cases hcontent : s.files.readSource? (root.resolve path) with
  | none =>
    rw [messagesFor_of_none hcontent]
    simp
  | some content =>
    rw [messagesFor_of_source hcontent]
    simp only [Option.some.injEq, forall_eq', forall_and]
    rw [forall_not_fatal_iff]
    rfl

theorem not_confirms_stillPresentText (path : String) (line : Int) (remaining : List Message) :
    ¬ Confirms (.ok (stillPresentText path line remaining)) := by
  unfold stillPresentText
  generalize toString line = shown
  generalize toString remaining.length = count
  refine not_confirms_of_letter (c := 'S') ?_ (by decide)
  iterate 8 refine getElem?_toList_append ?_ _
  rfl

theorem confirms_verifyFix_iff :
    Confirms (s.verifyFix parser path line).1 ↔
      ∃ root, s.root = some root ∧ Unobjected s parser root path line := by
  rcases verifyFix_cases s parser path line with
    ⟨hroot, hcall⟩ | ⟨root, hroot, ⟨m, hm, hfatal, hcall⟩ |
      ⟨hfatal, ⟨hclean, hcall⟩ | ⟨m, hm, hline, remaining, hcall⟩⟩⟩
  · rw [hcall, hroot]
    exact iff_of_false (not_confirms_of_letter rfl (by decide)) (by simp)
  all_goals
    rw [hcall, hroot]
    simp only [Option.some.injEq, exists_eq_left']
  · refine iff_of_false (not_confirms_of_letter (c := 'F') ?_ (by decide)) fun hunobjected => ?_
    · iterate 3 refine getElem?_toList_append ?_ _
      rfl
    · rw [(hunobjected m hm).1] at hfatal
      cases hfatal
  · exact iff_of_true (confirms_verifiedText path line) fun m hm => ⟨hfatal m hm, hclean m hm⟩
  · refine iff_of_false (not_confirms_stillPresentText path line remaining) fun hunobjected => ?_
    exact (hunobjected m hm).2 hline

/-- A confirmation is what verifies a fix that is marked, and nothing else does. -/
theorem verified_verifyFix_iff (hkey : s.markOf? key ≠ some .verified) :
    (s.verifyFix parser path line).2.markOf? key = some .verified ↔
      s.markOf? key = some .fixed ∧ Marks.isAt path line key = true ∧
        Confirms (s.verifyFix parser path line).1 := by
  rw [confirms_verifyFix_iff]
  have hnext : (s.verifyFix parser path line).2 =
      s.next parser (.call (.verifyFix path line)) := rfl
  rw [hnext]
  -- The two directions are the two step lemmas: what a change means, and what a verdict does.
  constructor
  · intro hverified
    have hchange := change_next (hverified ▸ hkey.symm)
    rw [hverified] at hchange
    obtain ⟨hfixed, _, _, root, hevent, hroot, hat, hseen⟩ := hchange.seenClean
    cases hevent
    exact ⟨hfixed, hat, root, hroot, hseen⟩
  · rintro ⟨hfixed, hat, root, hroot, hunobjected⟩
    have horderly := orderly_next s parser (.call (.verifyFix path line))
    rcases horderly.verdict path line root rfl hroot with
      ⟨⟨m, hm, hfatal⟩, -⟩ | ⟨-, mark, hverdict, hmarks⟩
    · rw [(hunobjected m hm).1] at hfatal
      cases hfatal
    · rw [hmarks key hat hfixed]
      cases hverdict with
      | clean _ => rfl
      | present hm hline => exact absurd hline (hunobjected _ hm).2

/-- A line is confirmed exactly when there is a workspace and the content of the file, if it is a
source, has no message on that line, nor an error in its tree while anything is reported. A fix that
is marked becomes verified exactly with a confirmation of its line. -/
theorem verifyFix_confirms_iff (s : Session) (parser : Parser) (path : String) (line : Int) :
    let answer := s.verifyFix parser path line
    (Confirms answer.1 ↔
      ∃ root, s.root = some root ∧
        ∀ content, s.files.readSource? (root.resolve path) = some content →
          (s.config.enabled = true → (parser content).hasError = false) ∧
            ∀ m ∈ (s.linter parser).messages content, (m.position.line : Int) ≠ line) ∧
      ∀ key, s.markOf? key ≠ some .verified →
        (answer.2.markOf? key = some .verified ↔
          s.markOf? key = some .fixed ∧ Marks.isAt path line key = true ∧ Confirms answer.1) := by
  refine ⟨?_, fun key => verified_verifyFix_iff⟩
  simp only [← unobjected_iff]
  exact confirms_verifyFix_iff

/-- A fix is applied, and its file is removed. -/
def erased : List Event :=
  [.call (.setWorkspace "."), .call (.applyFix "a.js" 1 false), .erase ["a.js"]]

/-- A file that is gone is confirmed to be clean, and the fix that was in it becomes verified. -/
theorem verifyFix_confirms_erased :
    let s := (start ⟨[(["a.js"], encode "~~a")], []⟩).run Script.parse erased
    let key : MarkKey := ⟨"a.js", 1, some "error-bitwise-not"⟩
    let answer := s.verifyFix Script.parse "a.js" 1
    (∃ root, s.root = some root ∧ s.files.readSource? (root.resolve "a.js") = none) ∧
      s.markOf? key = some .fixed ∧ Confirms answer.1 ∧
      answer.2.markOf? key = some .verified := by
  intro s key answer
  have hgone : (s.root.map fun root => s.files.readSource? (root.resolve "a.js")) = some none := by
    decide +kernel
  have hfixed : s.markOf? key = some .fixed := by decide +kernel
  obtain ⟨root, hroot, hnone⟩ := Option.map_eq_some_iff.mp hgone
  obtain ⟨hconfirms, hverified⟩ := verifyFix_confirms_iff s Script.parse "a.js" 1
  have hconfirmed : Confirms answer.1 := by
    refine hconfirms.mpr ⟨root, hroot, fun content hcontent => ?_⟩
    rw [hnone] at hcontent
    cases hcontent
  refine ⟨⟨root, hroot, hnone⟩, hfixed, hconfirmed, ?_⟩
  exact (hverified key (by rw [hfixed]; decide)).mpr ⟨hfixed, by decide +kernel, hconfirmed⟩

end TruncIdiom.Session
