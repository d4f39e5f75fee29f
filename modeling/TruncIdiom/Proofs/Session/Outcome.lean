import TruncIdiom.Proofs.Lint.Messages
import TruncIdiom.Proofs.Workspace.FixedFile
import TruncIdiom.Session.Call

/-!
What a call can come to.

Two calls may change a file, `applyFix` and `fixAll`, and two more the configuration or the marks,
`setWorkspace` and `verifyFix`. For each of them one lemma says what it can do to a session, and
when (`applyFix_cases` and the like); `effect_call` says it for all calls at once. Every call but
the first two leaves the files alone (`files_call`). What is said of a session is derived from
these, and what every event keeps, a run keeps (`run_of_next`).
-/

namespace TruncIdiom.Session

open Text Syntax Rule Json Lint Workspace

variable {s : Session} {parser : Parser} {root : Root} {path : String} {line : Int}

theorem withRoot_cases (s : Session) :
    (∀ call, s.withRoot call = s.say notInitialised) ∨
      ∃ root, s.root = some root ∧ ∀ call, s.withRoot call = call root := by
  cases hroot : s.root with
  | none => exact .inl fun call => by rw [withRoot, hroot]
  | some root => exact .inr ⟨root, rfl, fun call => by rw [withRoot, hroot]⟩

/-! ## Setting the workspace -/

theorem setWorkspace_cases (s : Session) (path : String) :
    ((s.files.isFolder path = false ∨ ∃ e, loadConfig? s.files path = .error e) ∧
        ∃ text, s.setWorkspace path = s.say ("Error: " ++ text)) ∨
      ∃ loaded, s.files.isFolder path = true ∧ loadConfig? s.files path = .ok loaded ∧
        s.setWorkspace path =
          (installedText s.files (loaded.getD s.config) path loaded.isSome,
            s.install path (loaded.getD s.config)) := by
  rw [setWorkspace]
  cases hfolder : s.files.isFolder path with
  | false =>
    refine .inl ⟨.inl rfl, "Workspace root not found at " ++ path, ?_⟩
    rw [← String.append_assoc]
    rfl
  | true =>
    cases hloaded : loadConfig? s.files path with
    | error e =>
      refine .inl ⟨.inr ⟨e, rfl⟩, "Invalid " ++ configFileName ++ ": " ++ e.message, ?_⟩
      simp only [← String.append_assoc]
      rfl
    | ok loaded => exact .inr ⟨loaded, rfl, rfl, rfl⟩

/-! ## The diagnostic that is found -/

def messagesFor (s : Session) (parser : Parser) (root : Root) (path : String) : List Message :=
  (lintFile (s.linter parser) s.files (root.resolve path)).messages

theorem messagesFor_of_source {content : Bytes}
    (h : s.files.readSource? (root.resolve path) = some content) :
    s.messagesFor parser root path = (s.linter parser).messages content := by
  rw [messagesFor, lintFile, h]
  rfl

theorem messagesFor_of_none (h : s.files.readSource? (root.resolve path) = none) :
    s.messagesFor parser root path = [] := by
  rw [messagesFor, lintFile, h]

theorem mem_of_nearest? {messages : List Message} {m : Message}
    (h : nearest? line messages = some m) : m ∈ messages := by
  induction messages generalizing m with
  | nil => cases h
  | cons first rest ih =>
    simp only [nearest?] at h
    split at h
    · next n hn =>
      split at h
      · obtain rfl := Option.some.inj h
        exact List.mem_cons_self
      · obtain rfl := Option.some.inj h
        exact List.mem_cons_of_mem first (ih hn)
    · obtain rfl := Option.some.inj h
      exact List.mem_cons_self

theorem of_findAmong {messages : List Message} {found : Found}
    (h : findAmong path line messages = .ok found) :
    found.message ∈ messages ∧ ∀ m ∈ messages, m.fatal = false := by
  unfold findAmong at h
  split at h
  · cases h
  · next hfatal =>
    split at h
    · next m hm =>
      have hmessage : found.message = m := by
        split at h <;> exact (congrArg Found.message (Except.ok.inj h)).symm
      rw [hmessage]
      exact ⟨mem_of_nearest? hm, by simpa using hfatal⟩
    · cases h

theorem of_find {found : Found} (h : s.find parser root path line = .ok found) :
    ∃ content, s.files.readSource? (root.resolve path) = some content ∧
      found.message ∈ (s.linter parser).messages content ∧ found.message.fatal = false := by
  rw [find, lintFile] at h
  split at h
  · next content hcontent =>
    obtain ⟨hmem, hfatal⟩ := of_findAmong h
    exact ⟨content, hcontent, hmem, hfatal _ hmem⟩
  · cases (of_findAmong h).1

/-! ## Applying one fix -/

theorem editedContent_eq_ok {content output : Bytes} {edit : Edit}
    (h : editedContent parser content edit = .ok output) :
    output = (applyBatch content [edit]).1 ∧ (applyBatch content [edit]).2 ≠ 0 ∧
      (parser output).hasError = false := by
  simp only [editedContent] at h
  split at h
  · cases h
  · next happlied =>
    split at h
    · cases h
    · next herror =>
      obtain rfl := Except.ok.inj h
      rw [isSome_firstFault?, Bool.not_eq_true] at herror
      exact ⟨rfl, happlied, herror⟩

theorem applyFix_cases (s : Session) (parser : Parser) (path : String) (line : Int)
    (accept : Bool) :
    (s.applyFix parser path line accept).2 = s ∨
      ∃ root found content edit output, s.root = some root ∧
        s.find parser root path line = .ok found ∧
        chosenEdit? found.message accept = some edit ∧
        s.files.readSource? (root.resolve path) = some content ∧
        editedContent parser content edit = .ok output ∧
        s.applyFix parser path line accept = (.ok (appliedText path found edit),
          { s with
            files := s.files.write (root.resolve path) output
            marks := s.marks.putFixed path found.message }) := by
  rw [applyFix]
  rcases withRoot_cases s with hnone | ⟨root, hroot, hsome⟩
  · exact .inl (by rw [hnone]; rfl)
  rw [hsome]
  cases hfound : s.find parser root path line with
  | error reason => exact .inl rfl
  | ok found =>
    dsimp only
    cases hedit : chosenEdit? found.message accept with
    | none => exact .inl rfl
    | some edit =>
      obtain ⟨content, hcontent, -⟩ := of_find hfound
      have hread : (s.files.read? (root.resolve path)).getD [] = content := by
        rw [(FileMap.readSource?_eq_some.mp hcontent).1]
        rfl
      simp only [applyFound, hread]
      cases hedited : editedContent parser content edit with
      | error rejection => exact .inl rfl
      | ok output =>
        exact .inr
          ⟨root, found, content, edit, output, hroot, hfound, hedit, hcontent, hedited, rfl⟩

/-! ## Confirming a fix -/

theorem verifyFix_cases (s : Session) (parser : Parser) (path : String) (line : Int) :
    (s.root = none ∧ s.verifyFix parser path line = s.say notInitialised) ∨
      ∃ root, s.root = some root ∧
        ((∃ m ∈ s.messagesFor parser root path, m.fatal = true ∧ s.verifyFix parser path line =
            s.say ("**FAILED** — `" ++ path ++ "` no longer parses: " ++ m.text)) ∨
          (∀ m ∈ s.messagesFor parser root path, m.fatal = false) ∧
            (((∀ m ∈ s.messagesFor parser root path, (m.position.line : Int) ≠ line) ∧
                s.verifyFix parser path line =
                  { s with marks := s.marks.settle path line .verified }.say
                    (verifiedText path line)) ∨
              ∃ m ∈ s.messagesFor parser root path, (m.position.line : Int) = line ∧ ∃ remaining,
                s.verifyFix parser path line =
                  { s with marks := s.marks.settle path line .failed }.say
                    (stillPresentText path line remaining))) := by
  rw [verifyFix]
  cases hroot : s.root with
  | none => exact .inl ⟨rfl, by rw [withRoot, hroot]⟩
  | some root =>
    refine .inr ⟨root, rfl, ?_⟩
    rw [withRoot, hroot]
    dsimp only [messagesFor]
    generalize (lintFile (s.linter parser) s.files (root.resolve path)).messages = messages
    cases hfatal : messages.find? (·.fatal) with
    | some fatal =>
      exact .inl ⟨fatal, List.mem_of_find?_eq_some hfatal, List.find?_some hfatal, rfl⟩
    | none =>
      refine .inr ⟨by simpa using hfatal, ?_⟩
      dsimp only
      split
      · next hempty =>
        left
        simp only [List.isEmpty_iff, List.filter_eq_nil_iff, decide_eq_true_eq] at hempty
        exact ⟨hempty, rfl⟩
      · next hsome =>
        right
        simp only [List.isEmpty_iff, List.filter_eq_nil_iff, decide_eq_true_eq, not_forall,
          not_not] at hsome
        obtain ⟨m, hm, hline⟩ := hsome
        exact ⟨m, hm, hline, _, rfl⟩

/-- What the messages for a file say of a line. -/
inductive Verdict (messages : List Message) (line : Int) : Mark → Prop
  | clean : (∀ m ∈ messages, (m.position.line : Int) ≠ line) → Verdict messages line .verified
  | present {m : Message} : m ∈ messages → (m.position.line : Int) = line →
      Verdict messages line .failed

theorem verdict_verifyFix (parser : Parser) (path : String) (line : Int)
    (hroot : s.root = some root) :
    ((∃ m ∈ s.messagesFor parser root path, m.fatal = true) ∧
        (s.verifyFix parser path line).2 = s) ∨
      ((∀ m ∈ s.messagesFor parser root path, m.fatal = false) ∧
        ∃ mark, Verdict (s.messagesFor parser root path) line mark ∧
          (s.verifyFix parser path line).2 =
            { s with marks := s.marks.settle path line mark }) := by
  rcases verifyFix_cases s parser path line with
    ⟨hnone, -⟩ | ⟨root', hroot', ⟨m, hm, hfatal, hcall⟩ |
      ⟨hfatal, ⟨hclean, hcall⟩ | ⟨m, hm, hline, remaining, hcall⟩⟩⟩
  · rw [hnone] at hroot
    cases hroot
  all_goals obtain rfl : root' = root := Option.some.inj (hroot'.symm.trans hroot)
  · exact .inl ⟨⟨m, hm, hfatal⟩, by rw [hcall]; rfl⟩
  · exact .inr ⟨hfatal, .verified, .clean hclean, by rw [hcall]; rfl⟩
  · exact .inr ⟨hfatal, .failed, .present hm hline, by rw [hcall]; rfl⟩

/-! ## Fixing a whole file -/

theorem fixAll_cases (s : Session) (parser : Parser) (path : String) (dryRun : Bool) :
    (s.fixAll parser path dryRun).2 = s ∨
      ∃ root result files, s.root = some root ∧ dryRun = false ∧
        fixFile (s.linter parser) s.files (root.resolve path) false = .ok (result, files) ∧
        s.fixAll parser path dryRun =
          let before := lintFile (s.linter parser) s.files (root.resolve path)
          (.ok (fixAllText path before result false),
            { s with files := files, marks := markFixed s.marks path before.messages }) := by
  rw [fixAll]
  rcases withRoot_cases s with hnone | ⟨root, hroot, hsome⟩
  · exact .inl (by rw [hnone]; rfl)
  rw [hsome]
  dsimp only
  split
  · exact .inl rfl
  · split
    · exact .inl rfl
    · cases hfixed : fixFile (s.linter parser) s.files (root.resolve path) dryRun with
      | error e => exact .inl rfl
      | ok fixed =>
        obtain ⟨result, files⟩ := fixed
        cases dryRun with
        | true =>
          obtain rfl : files = s.files := (fixFile_cases hfixed).resolve_right (by simp)
          exact .inl rfl
        | false => exact .inr ⟨root, result, files, hroot, rfl, hfixed, rfl⟩

/-! ## The other calls -/

/-- The path of the file that a call may change. -/
def Call.repairedPath? : Call → Option String
  | .applyFix path _ _ => some path
  | .fixAll path false => some path
  | _ => none

theorem snd_withRoot {call : Root → Outcome} (h : ∀ root, (call root).2 = s) :
    (s.withRoot call).2 = s := by
  rcases withRoot_cases s with hnone | ⟨root, -, hsome⟩
  · rw [hnone]
    rfl
  · rw [hsome]
    exact h root

theorem snd_reportFile (s : Session) (parser : Parser) (path : String) :
    (s.reportFile parser path).2 = s := by
  refine snd_withRoot fun root => ?_
  dsimp only
  split <;> rfl

theorem snd_propose (s : Session) (parser : Parser) (path : String) (line : Int) :
    (s.propose parser path line).2 = s := by
  refine snd_withRoot fun root => ?_
  split
  · rfl
  · simp only [after]
    split <;> rfl

theorem configure_cases (s : Session) (severity maxFixPasses considerGetters : Value) :
    (s.configure severity maxFixPasses considerGetters).2 = s ∨
      ∃ config, Config.make (settingsOf severity maxFixPasses considerGetters) = .ok config ∧
        (s.configure severity maxFixPasses considerGetters).2 = s.reconfigure config := by
  rw [configure]
  cases hmade : Config.make (settingsOf severity maxFixPasses considerGetters) with
  | ok config => exact .inr ⟨config, rfl, rfl⟩
  | error e =>
    dsimp only
    left
    split <;> rfl

/-! ## Every call -/

/-- What a call does to a session. -/
inductive Effect (s : Session) (parser : Parser) : Call → Session → Prop
  | nothing {call : Call} : Effect s parser call s
  | installed {path : String} {loaded : Option Config} :
      s.files.isFolder path = true → loadConfig? s.files path = .ok loaded →
      Effect s parser (.setWorkspace path) (s.install path (loaded.getD s.config))
  | configured {severity maxFixPasses considerGetters : Value} {config : Config} :
      Config.make (settingsOf severity maxFixPasses considerGetters) = .ok config →
      Effect s parser (.configure severity maxFixPasses considerGetters) (s.reconfigure config)
  | applied {path : String} {line : Int} {accept : Bool} {root : Root} {found : Found}
      {content output : Bytes} {edit : Edit} :
      s.root = some root → s.find parser root path line = .ok found →
      chosenEdit? found.message accept = some edit →
      s.files.readSource? (root.resolve path) = some content →
      editedContent parser content edit = .ok output →
      Effect s parser (.applyFix path line accept)
        { s with
          files := s.files.write (root.resolve path) output
          marks := s.marks.putFixed path found.message }
  | settled {path : String} {line : Int} {root : Root} {mark : Mark} : s.root = some root →
      (∀ m ∈ s.messagesFor parser root path, m.fatal = false) →
      Verdict (s.messagesFor parser root path) line mark →
      Effect s parser (.verifyFix path line) { s with marks := s.marks.settle path line mark }
  | swept {path : String} {root : Root} {result : FixResult} {files : FileMap} :
      s.root = some root →
      fixFile (s.linter parser) s.files (root.resolve path) false = .ok (result, files) →
      Effect s parser (.fixAll path false)
        { s with
          files := files
          marks := markFixed s.marks path (s.messagesFor parser root path) }

theorem effect_of_eq {call : Call} {s' : Session} (h : s' = s) : Effect s parser call s' :=
  h ▸ .nothing

theorem effect_call (s : Session) (parser : Parser) (call : Call) :
    Effect s parser call (s.call parser call).2 := by
  cases call with
  | setWorkspace path =>
    rcases setWorkspace_cases s path with ⟨-, text, hcall⟩ | ⟨loaded, hfolder, hloaded, hcall⟩
    · exact effect_of_eq (by rw [Session.call, hcall]; rfl)
    · rw [Session.call, hcall]
      exact .installed hfolder hloaded
  | configure severity maxFixPasses considerGetters =>
    rcases configure_cases s severity maxFixPasses considerGetters with
      hsame | ⟨config, hmade, hcall⟩
    · exact effect_of_eq hsame
    · rw [Session.call, hcall]
      exact .configured hmade
  | reportFile path => exact effect_of_eq (snd_reportFile s parser path)
  | explainRule id => exact .nothing
  | propose path line => exact effect_of_eq (snd_propose s parser path line)
  | applyFix path line accept =>
    rcases applyFix_cases s parser path line accept with
      hsame | ⟨root, found, content, edit, output, hroot, hfound, hedit, hcontent, hedited, hcall⟩
    · exact effect_of_eq hsame
    · rw [Session.call, hcall]
      exact .applied hroot hfound hedit hcontent hedited
  | verifyFix path line =>
    cases hroot : s.root with
    | none => exact effect_of_eq (by rw [Session.call, verifyFix, withRoot, hroot]; rfl)
    | some root =>
      rcases verdict_verifyFix parser path line hroot with
        ⟨-, hsame⟩ | ⟨hfatal, mark, hverdict, hcall⟩
      · exact effect_of_eq hsame
      · rw [Session.call, hcall]
        exact .settled hroot hfatal hverdict
  | fixAll path dryRun =>
    rcases fixAll_cases s parser path dryRun with
      hsame | ⟨root, result, files, hroot, rfl, hfixed, hcall⟩
    · exact effect_of_eq hsame
    · rw [Session.call, hcall]
      exact .swept hroot hfixed

theorem files_call (s : Session) (parser : Parser) {call : Call} (h : call.repairedPath? = none) :
    (s.call parser call).2.files = s.files := by
  have heffect := effect_call s parser call
  generalize (s.call parser call).2 = s' at heffect ⊢
  cases heffect with
  | nothing | installed _ _ | configured _ | settled _ _ _ => rfl
  | applied _ _ _ _ _ => cases h
  | swept _ _ => cases h

/-! ## Runs -/

theorem run_of_next (P : Session → Prop) (hnext : ∀ s event, P s → P (s.next parser event))
    (h : P s) (events : List Event) : P (s.run parser events) := by
  induction events generalizing s with
  | nil => exact h
  | cons event events ih => exact ih (hnext s event h)

end TruncIdiom.Session
