import TruncIdiom.Proofs.Lint.Config
import TruncIdiom.Proofs.Session.Outcome

/-!
Setting a workspace as a whole.

A workspace is refused, and then nothing changes, or it is installed, and then the configuration,
the root and the marks are all replaced; no session has some of them (`setWorkspace_whole`). Only
the reply may fail after that: it spells out the extensions of the configuration, and these may be
values that are no texts. Such a configuration comes from a configuration file that lists them, and
the call that reads the file is the first to fail.
-/

namespace TruncIdiom.Session

open Json Lint Rule Syntax Workspace

variable {s : Session} {parser : Parser} {path : String} {event : Event} {events : List Event}
  {config : Config} {m : FileMap}

/-! ## The reply to a workspace that is installed -/

theorem countHandled_of_texts (h : Texts config.extensions) (names : List String) :
    ∃ count, countHandled config names = .ok count := by
  induction names with
  | nil => exact ⟨0, rfl⟩
  | cons name names ih =>
    obtain ⟨handled, hhandled⟩ := endsWithAny_of_texts h (Text.lower name).toList
    obtain ⟨count, hcount⟩ := ih
    refine ⟨if handled then count + 1 else count, ?_⟩
    rw [countHandled, Config.handles, hhandled, hcount]
    rfl

theorem countFiles_of_texts (h : Texts config.extensions) (m : FileMap) (path : String) :
    ∃ count, countFiles m config path = .ok count := by
  rw [countFiles]
  split
  · exact countHandled_of_texts h _
  · exact ⟨0, rfl⟩

theorem installedText_of_texts (h : Texts config.extensions) (m : FileMap) (path : String)
    (loaded : Bool) :
    ∃ text, installedText m config path loaded = .ok ("Workspace set to `" ++ text) := by
  obtain ⟨count, hcount⟩ := countFiles_of_texts h m path
  obtain ⟨texts, htexts⟩ := extensionTexts_of_texts h 0
  rw [installedText, hcount, htexts]
  simp only [bind, Except.bind, pure, Except.pure, String.append_assoc]
  exact ⟨_, rfl⟩

theorem texts_of_installedText {loaded : Bool} {text : String}
    (h : installedText m config path loaded = .ok text) : Texts config.extensions := by
  obtain ⟨count, -, h⟩ := exists_of_bind_eq_ok h
  obtain ⟨texts, htexts, -⟩ := exists_of_bind_eq_ok h
  exact texts_of_extensionTexts htexts

/-! ## Where a configuration comes from -/

theorem made_of_loadConfig? (h : loadConfig? m path = .ok (some config)) :
    ∃ settings, Config.make settings = .ok config := by
  rw [loadConfig?] at h
  cases hread : m.read? (joinPath path configFileName) with
  | none =>
    rw [hread] at h
    cases h
  | some content =>
    rw [hread] at h
    obtain ⟨made, hmade, hsome⟩ := exists_of_map_eq_ok h
    obtain rfl := Option.some.inj hsome
    obtain ⟨text, -, htext⟩ := exists_of_bind_eq_ok hmade
    obtain ⟨value, -, hvalue⟩ := exists_of_bind_eq_ok htext
    exact Config.made_of_ofValue (eq_ok_of_mapError hvalue)

theorem config_next_cases (s : Session) (parser : Parser) (event : Event) :
    (s.next parser event).config = s.config ∨
      (∃ path loaded, event = .call (.setWorkspace path) ∧ loadConfig? s.files path = .ok loaded ∧
        (s.next parser event).config = loaded.getD s.config) ∨
      ∃ severity maxFixPasses considerGetters,
        Config.make (settingsOf severity maxFixPasses considerGetters) =
          .ok (s.next parser event).config := by
  cases event with
  | write place content => exact .inl rfl
  | erase place => exact .inl rfl
  | call call =>
    have heffect := effect_call s parser call
    rw [next]
    generalize (s.call parser call).2 = s' at heffect ⊢
    cases heffect with
    | nothing | applied _ _ _ _ _ | settled _ _ _ | swept _ _ => exact .inl rfl
    | installed _ hloaded => exact .inr (.inl ⟨_, _, rfl, hloaded, rfl⟩)
    | configured hmade => exact .inr (.inr ⟨_, _, _, hmade⟩)

/-- The configuration of a session was made from settings. -/
def Configured (s : Session) : Prop := ∃ settings, Config.make settings = .ok s.config

theorem configured_next (h : Configured s) (parser : Parser) (event : Event) :
    Configured (s.next parser event) := by
  rcases config_next_cases s parser event with
    hsame | ⟨path, loaded, -, hloaded, hconfig⟩ | ⟨severity, maxFixPasses, considerGetters, hmade⟩
  · rw [Configured, hsame]
    exact h
  · rw [Configured, hconfig]
    cases loaded with
    | none => exact h
    | some config => exact made_of_loadConfig? hloaded
  · exact ⟨_, hmade⟩

theorem configured_run (files : FileMap) (parser : Parser) (events : List Event) :
    Configured ((start files).run parser events) :=
  run_of_next Configured (fun _ event h => configured_next h parser event) ⟨{}, rfl⟩ events

/-! ## All or nothing -/

/-- A session after a workspace was installed: all that belongs to the workspace is new. -/
structure Installed (s : Session) (path : String) (config : Config) (s' : Session) : Prop where
  configured : s'.config = config
  linter : ∀ parser, s'.linter parser = ⟨parser, defaultRules, config⟩
  root : s'.root = some ⟨path, config.maxLines⟩
  marks : s'.marks = []
  files : s'.files = s.files

theorem installed_install (s : Session) (path : String) (config : Config) :
    Installed s path config (s.install path config) :=
  ⟨rfl, fun _ => rfl, rfl, rfl, rfl⟩

/-- What setting a workspace comes to. -/
inductive Setting (s : Session) (path : String) : Outcome → Prop
  | refused {text : String} :
      s.files.isFolder path = false ∨ (∃ e, loadConfig? s.files path = .error e) →
      Setting s path (.ok ("Error: " ++ text), s)
  | installed {loaded : Option Config} {text : String} {s' : Session} :
      s.files.isFolder path = true → loadConfig? s.files path = .ok loaded →
      Installed s path (loaded.getD s.config) s' → Texts (loaded.getD s.config).extensions →
      Setting s path (.ok ("Workspace set to `" ++ text), s')
  | failed {loaded : Option Config} {e : ConfigError} {s' : Session} :
      s.files.isFolder path = true → loadConfig? s.files path = .ok loaded →
      Installed s path (loaded.getD s.config) s' → ¬ Texts (loaded.getD s.config).extensions →
      Setting s path (.error e, s')

theorem setting_setWorkspace (s : Session) (path : String) :
    Setting s path (s.setWorkspace path) := by
  rcases setWorkspace_cases s path with ⟨hrefused, text, hcall⟩ | ⟨loaded, hfolder, hloaded, hcall⟩
  · rw [hcall]
    exact .refused hrefused
  · rw [hcall]
    -- The session is the same whether the reply fails or not: only the reply looks at the texts.
    have hinstalled := installed_install s path (loaded.getD s.config)
    by_cases htexts : Texts (loaded.getD s.config).extensions
    · obtain ⟨text, htext⟩ := installedText_of_texts htexts s.files path loaded.isSome
      rw [htext]
      exact .installed hfolder hloaded hinstalled htexts
    · cases htext : installedText s.files (loaded.getD s.config) path loaded.isSome with
      | ok text => exact absurd (texts_of_installedText htext) htexts
      | error e => exact .failed hfolder hloaded hinstalled htexts

/-- Whether every call among some events that sets a workspace gives a reply. -/
def Answered (s : Session) (parser : Parser) (events : List Event) : Prop :=
  ∀ before path after, events = before ++ .call (.setWorkspace path) :: after →
    ∃ text, ((s.run parser before).setWorkspace path).1 = .ok text

theorem texts_next (h : Texts s.config.extensions)
    (hanswered : ∀ path, event = .call (.setWorkspace path) →
      ∃ text, (s.setWorkspace path).1 = .ok text) :
    Texts (s.next parser event).config.extensions := by
  rcases config_next_cases s parser event with
    hsame | ⟨path, loaded, rfl, -, -⟩ | ⟨severity, maxFixPasses, considerGetters, hmade⟩
  · rw [hsame]
    exact h
  -- A call that was answered has installed texts, or nothing.
  · obtain ⟨text, htext⟩ := hanswered path rfl
    have hsetting := setting_setWorkspace s path
    rw [next, Session.call]
    generalize s.setWorkspace path = answer at htext hsetting ⊢
    cases hsetting with
    | refused _ => exact h
    | installed _ _ hinstalled htexts => exact hinstalled.configured ▸ htexts
    | failed _ _ _ _ => cases htext
  · obtain ⟨-, -, hextensions, -⟩ := Config.of_make hmade
    have hdefault : [.string ".js", .string ".mjs", .string ".cjs", .string ".jsx"] =
        (s.next parser event).config.extensions := Except.ok.inj hextensions
    rw [← hdefault]
    simp [Texts]

theorem texts_run (h : Texts s.config.extensions) (hanswered : Answered s parser events) :
    Texts (s.run parser events).config.extensions := by
  induction events generalizing s with
  | nil => exact h
  | cons event events ih =>
    have hnext : Texts (s.next parser event).config.extensions := by
      refine texts_next h fun path hevent => ?_
      exact hanswered [] path events (by rw [hevent]; rfl)
    refine ih hnext fun before path after hevents => ?_
    exact hanswered (event :: before) path after (by rw [hevents]; rfl)

/-- A configuration file that lists extensions of which one is no text. -/
def ListsOther (m : FileMap) (path : String) : Prop :=
  ∃ config settings, loadConfig? m path = .ok (some config) ∧
    Config.make settings = .ok config ∧ settings.extensions = .array config.extensions ∧
    ¬ Texts config.extensions

theorem listsOther_of_failed {e : ConfigError} (h : Texts s.config.extensions)
    (hfailed : (s.setWorkspace path).1 = .error e) : ListsOther s.files path := by
  have hsetting := setting_setWorkspace s path
  generalize s.setWorkspace path = answer at hfailed hsetting
  cases hsetting with
  | refused _ => cases hfailed
  | installed _ _ _ _ => cases hfailed
  | @failed loaded _ _ _ hloaded _ htexts =>
    cases loaded with
    | none => exact absurd h htexts
    | some config =>
      obtain ⟨settings, hmade⟩ := made_of_loadConfig? hloaded
      obtain ⟨-, -, hextensions, -⟩ := Config.of_make hmade
      have harray := (texts_or_eq_array hextensions).resolve_left htexts
      exact ⟨config, settings, hloaded, hmade, harray, htexts⟩

/-- A reply is given exactly when the configuration that is installed, if any is, has texts for
extensions. -/
theorem replied_iff (s : Session) (path : String) :
    (∃ text, (s.setWorkspace path).1 = .ok text) ↔
      ∀ loaded, s.files.isFolder path = true → loadConfig? s.files path = .ok loaded →
        Texts (loaded.getD s.config).extensions := by
  have hsetting := setting_setWorkspace s path
  generalize s.setWorkspace path = answer at hsetting
  cases hsetting with
  | @refused text hrefused =>
    refine iff_of_true ⟨_, rfl⟩ fun loaded hfolder hloaded => ?_
    rcases hrefused with hnone | ⟨e, herror⟩
    · rw [hnone] at hfolder
      cases hfolder
    · rw [herror] at hloaded
      cases hloaded
  | installed _ hinstalled _ htexts =>
    refine iff_of_true ⟨_, rfl⟩ fun loaded _ hloaded => ?_
    rw [hinstalled] at hloaded
    obtain rfl := Except.ok.inj hloaded
    exact htexts
  | failed hfolder hloaded _ htexts =>
    exact iff_of_false (fun ⟨_, htext⟩ => by cases htext) fun h => htexts (h _ hfolder hloaded)

/-- Setting a workspace is all or nothing for the session: it is left as it is, with a reply that
begins with Error, or all that belongs to a workspace is replaced. The reply may fail after that,
exactly when an extension of the new configuration is no text, and the first call to fail in this
way has read a configuration file that lists one. -/
theorem setWorkspace_whole (s : Session) (path : String) :
    Setting s path (s.setWorkspace path) ∧
      ((∃ text, (s.setWorkspace path).1 = .ok text) ↔
        ∀ loaded, s.files.isFolder path = true → loadConfig? s.files path = .ok loaded →
          Texts (loaded.getD s.config).extensions) ∧
      ∀ files parser events e, s = (start files).run parser events →
        Answered (start files) parser events → (s.setWorkspace path).1 = .error e →
        ListsOther s.files path := by
  refine ⟨setting_setWorkspace s path, replied_iff s path, ?_⟩
  rintro files parser events e rfl hanswered
  refine listsOther_of_failed (texts_run ?_ hanswered)
  simp [Texts, start, Config.default]

/-- A workspace whose configuration file lists a number as an extension. -/
def numberWorkspace : FileMap :=
  ⟨[([".trunclintrc.json"], Text.encode "\x7b\"extensions\": [1]\x7d")], []⟩

/-- The call fails, and by then the workspace is installed. -/
theorem setWorkspace_whole_number :
    let answer := (start numberWorkspace).setWorkspace "."
    answer.1 = .error (.suffixNotText .int) ∧ answer.2.root.map (·.path) = some "." ∧
      ListsOther numberWorkspace "." := by
  intro answer
  have hfailed : answer.1 = .error (.suffixNotText .int) := by decide +kernel
  have hroot : answer.2.root.map (·.path) = some "." := by decide +kernel
  refine ⟨hfailed, hroot, ?_⟩
  exact (setWorkspace_whole (start numberWorkspace) ".").2.2 numberWorkspace Script.parse [] _ rfl
    (fun before _ _ hevents => by cases before <;> cases hevents) hfailed

end TruncIdiom.Session
