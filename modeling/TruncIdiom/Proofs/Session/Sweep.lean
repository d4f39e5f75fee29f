import TruncIdiom.Proofs.Session.LifeCycle
import TruncIdiom.Proofs.Session.Setup

/-!
What a run over a whole file marks.

A run marks every diagnostic that had a fix before it. `Fate` says what becomes of such a
diagnostic: a pass that is kept applies its fix, or the first pass is dropped, or the first pass
passes the fix over for one that it starts within. A fix that is passed over may still be waiting
when the passes run out. The diagnostic is marked in every case (`fixAll_marks`,
`fixAll_marks_unrepaired`).
-/

namespace TruncIdiom.Lint

open Text Rule

variable {linter : Linter} {source output : Bytes} {applied limit : Nat} {m : Message}
  {fix : SpanEdit}

/-! ## What becomes of a fix -/

/-- One of at most `limit` passes over a source is kept and applies the fix of a message. -/
inductive Repairs (linter : Linter) (m : Message) : Nat → Bytes → Prop
  | now {limit : Nat} {source output : Bytes} {applied : Nat} {fix : SpanEdit} :
      linter.fixPass source = .improved output applied → m ∈ linter.messages source →
      m.fix = some fix → fix ∈ selectFixes (linter.fixesOf source) →
      Repairs linter m (limit + 1) source
  | later {limit : Nat} {source output : Bytes} {applied : Nat} :
      linter.fixPass source = .improved output applied → Repairs linter m limit output →
      Repairs linter m (limit + 1) source

/-- What becomes of a message with a fix in a run of passes. -/
inductive Fate (linter : Linter) (limit : Nat) (source : Bytes) (m : Message) : Prop
  | repaired : Repairs linter m limit source → Fate linter limit source m
  | dropped : linter.fixPass source = .broken → Fate linter limit source m
  | waiting {fix other : SpanEdit} : m.fix = some fix →
      fix ∉ selectFixes (linter.fixesOf source) → other ∈ selectFixes (linter.fixesOf source) →
      other.start ≤ fix.start → fix.start ≤ other.stop → Fate linter limit source m

theorem fate_of_fix (hlimit : 1 ≤ limit) (hm : m ∈ linter.messages source)
    (hfix : m.fix = some fix) : Fate linter limit source m := by
  -- There is a first pass, and its outcome decides: later passes see other messages.
  obtain ⟨limit, rfl⟩ : ∃ n, limit = n + 1 := ⟨limit - 1, by omega⟩
  rcases fixPass_cases linter source with
    ⟨-, hidle⟩ | ⟨output, applied, -, ⟨hpass, -⟩ | ⟨hpass, -⟩⟩
  · rw [hidle.fix_eq_none m hm] at hfix
    cases hfix
  · exact .dropped hpass
  · have hmem : fix ∈ linter.fixesOf source := List.mem_filterMap.mpr ⟨m, hm, hfix⟩
    by_cases hselected : fix ∈ selectFixes (linter.fixesOf source)
    · exact .repaired (.now hpass hm hfix hselected)
    · obtain ⟨other, hother, hstart, hstop⟩ :=
        (mem_selectFixes_or (fun _ h => span_of_mem_fixesOf h) hmem).resolve_left hselected
      exact .waiting hfix hselected hother hstart hstop

theorem not_repairs_of_broken (hpass : linter.fixPass source = .broken) :
    ¬ Repairs linter m limit source := by
  intro h
  cases h with
  | now himproved _ _ _ =>
    rw [hpass] at himproved
    cases himproved
  | later himproved _ =>
    rw [hpass] at himproved
    cases himproved

/-- A run that applies nothing had nothing to apply, or its first pass was dropped. -/
theorem fix_eq_none_or_broken (hlimit : 1 ≤ limit)
    (hnone : (linter.fixPasses limit ⟨source, 0, 0⟩).applied = 0) :
    (∀ m ∈ linter.messages source, m.fix = none) ∨ linter.fixPass source = .broken := by
  obtain ⟨limit, rfl⟩ : ∃ n, limit = n + 1 := ⟨limit - 1, by omega⟩
  rcases fixPass_cases linter source with
    ⟨-, hidle⟩ | ⟨output, applied, hchanges, ⟨hpass, -⟩ | ⟨hpass, -⟩⟩
  · exact .inl hidle.fix_eq_none
  · exact .inr hpass
  · rw [Linter.fixPasses, hpass] at hnone
    dsimp only at hnone
    rw [fixPasses_from] at hnone
    have happlied := hchanges.some_applied
    dsimp only at hnone
    omega

end TruncIdiom.Lint

namespace TruncIdiom.Session

open Text Syntax Rule Lint Collection Workspace

variable {s : Session} {parser : Parser} {root : Root} {path : String} {content : Bytes}
  {limit : Nat} {key : MarkKey}

/-! ## What is marked -/

theorem markFixed_of_no_fix {messages : List Message} (h : ∀ m ∈ messages, m.fix = none)
    (marks : Marks) (path : String) : markFixed marks path messages = marks := by
  have hnone : messages.filter (·.fix.isSome) = [] := by
    rw [List.filter_eq_nil_iff]
    intro m hm
    rw [h m hm]
    decide
  rw [markFixed, hnone]
  rfl

theorem isFile_of_readSource? {m : FileMap} (h : m.readSource? path = some content) :
    m.isFile path = true := by
  obtain ⟨place, hplace, hget⟩ := FileMap.read?_eq_some.mp (FileMap.readSource?_eq_some.mp h).1
  rw [FileMap.isFile, FileMap.filePlace?, hplace]
  simp [hget]

theorem marks_fixAll (parser : Parser) (hroot : s.root = some root)
    (hcontent : s.files.readSource? (root.resolve path) = some content)
    (hlimit : s.config.passLimit = .ok limit) :
    (s.fixAll parser path false).2.marks =
      markFixed s.marks path ((s.linter parser).messages content) := by
  have hmessages : (lintFile (s.linter parser) s.files (root.resolve path)).messages =
      (s.linter parser).messages content := messagesFor_of_source hcontent
  have hlimit : (s.linter parser).config.passLimit = .ok limit := hlimit
  rw [fixAll, withRoot, hroot]
  simp only [isFile_of_readSource? hcontent, hmessages, Bool.not_true, Bool.false_eq_true, if_false]
  cases hfatal : ((s.linter parser).messages content).find? (·.fatal) with
  | some fatal =>
    -- The call is refused; a fatal message is the only one and has no fix to mark.
    obtain ⟨node, hall⟩ :=
      messages_of_fatal (List.mem_of_find?_eq_some hfatal) (List.find?_some hfatal)
    rw [markFixed_of_no_fix]
    · rfl
    · rw [hall]
      simp [faultMessage]
  | none =>
    obtain ⟨result, -, hfile⟩ := fixFile_eq hlimit hcontent false
    rw [hfile]
    rfl

/-- What a run over a source makes of the marks of a session. -/
structure Swept (s : Session) (parser : Parser) (path : String) (content : Bytes) (limit : Nat)
    (s' : Session) : Prop where
  /-- Every diagnostic that had a fix is marked. -/
  marked : ∀ key, HadFix path ((s.linter parser).messages content) key →
    s'.markOf? key = some .fixed
  /-- No other key is touched. -/
  kept : ∀ key, ¬ HadFix path ((s.linter parser).messages content) key →
    s'.markOf? key = s.markOf? key
  /-- A diagnostic that is marked is repaired, unless the first pass is dropped or passes it
  over. -/
  fate : ∀ m ∈ (s.linter parser).messages content, m.fix.isSome = true →
    Fate (s.linter parser) limit content m
  /-- Where the first pass is dropped nothing is repaired. -/
  dropped : (s.linter parser).fixPass content = .broken →
    ∀ m, ¬ Repairs (s.linter parser) m limit content
  /-- A run that applies nothing changes no mark, unless its first pass is dropped. -/
  idle : ((s.linter parser).fixPasses limit ⟨content, 0, 0⟩).applied = 0 →
    s'.marks = s.marks ∨ (s.linter parser).fixPass content = .broken

theorem swept_fixAll (hconfig : Configured s) (parser : Parser) (hroot : s.root = some root)
    (hcontent : s.files.readSource? (root.resolve path) = some content)
    (hlimit : s.config.passLimit = .ok limit) :
    Swept s parser path content limit (s.fixAll parser path false).2 := by
  obtain ⟨settings, hmade⟩ := hconfig
  have hone : 1 ≤ limit := Config.one_le_of_make hmade hlimit
  have hmarks := marks_fixAll parser hroot hcontent hlimit
  constructor
  · intro key hfix
    rw [markOf?, hmarks, get?_markFixed_of_hadFix _ hfix]
  · intro key hfix
    rw [markOf?, hmarks, get?_markFixed_of_not_hadFix _ hfix]
    rfl
  · intro m hm hfix
    obtain ⟨fix, hfix⟩ := Option.isSome_iff_exists.mp hfix
    exact fate_of_fix hone hm hfix
  · exact fun hbroken m => not_repairs_of_broken hbroken
  · intro hnone
    rcases fix_eq_none_or_broken hone hnone with hfixes | hbroken
    · exact .inl (by rw [hmarks, markFixed_of_no_fix hfixes])
    · exact .inr hbroken

theorem fixAll_eq_self (h : ∀ root content limit, s.root = some root →
    s.files.readSource? (root.resolve path) = some content → s.config.passLimit ≠ .ok limit) :
    (s.fixAll parser path false).2 = s := by
  rcases fixAll_cases s parser path false with
    hsame | ⟨root, result, files, hroot, -, hfile, hcall⟩
  · exact hsame
  · cases hcontent : s.files.readSource? (root.resolve path) with
    | none =>
      -- The call goes through for a file that is no source, with nothing to write or to mark.
      obtain rfl : files = s.files := by
        rcases fixFile_cases hfile with hsame | ⟨content, _, hsome, -⟩
        · exact hsame
        · rw [hcontent] at hsome
          cases hsome
      have hmessages : (lintFile (s.linter parser) s.files (root.resolve path)).messages = [] :=
        messagesFor_of_none hcontent
      rw [hcall]
      dsimp only
      rw [hmessages]
      rfl
    | some content =>
      cases hlimit : s.config.passLimit with
      | ok limit => exact absurd hlimit (h root content limit hroot hcontent)
      | error e =>
        rw [fixFile, fixedFile_eq hcontent, Linter.fix, linter, hlimit] at hfile
        cases hfile

/-- A run over a source marks the diagnostics that had a fix, and only them. One that is marked has
been repaired by a pass that was kept, unless the first pass was dropped, and then nothing has been
repaired, or passed its fix over for one it starts within. A run that applies nothing changes no
mark, unless its first pass was dropped. Where there is no source to fix nothing changes. -/
theorem fixAll_marks (hconfig : Configured s) (parser : Parser) (path : String) :
    let s' := (s.fixAll parser path false).2
    (∀ root content limit, s.root = some root →
        s.files.readSource? (root.resolve path) = some content →
        s.config.passLimit = .ok limit → Swept s parser path content limit s') ∧
      ((∀ root content limit, s.root = some root →
        s.files.readSource? (root.resolve path) = some content →
        s.config.passLimit ≠ .ok limit) → s' = s) :=
  ⟨fun _ _ _ => swept_fixAll hconfig parser, fixAll_eq_self⟩

/-- An idiom inside another one, on a line of its own. -/
def nested : Bytes := encode "(\n~~x) >> 0"

def onePass : List Event := [
  .call (.configure (.string "error") (.int 1) (.bool false)), .call (.setWorkspace ".")]

/-- A parser that can read a double complement and nothing else. -/
def complementOnly : Parser := fun source =>
  if source = encode "~~a" then Script.parse source
  else .node { kind := "ERROR", start := 0, stop := source.length, flagged := true } []

/-- The one pass passes over the inner idiom, and it is marked although no fix for its line was
applied. A file whose fix is dropped stays as it was, and its idiom is marked as well. -/
theorem fixAll_marks_unrepaired :
    (let s := (start ⟨[(["a.js"], nested)], []⟩).run Script.parse onePass
      let key : MarkKey := ⟨"a.js", 2, some "error-bitwise-not"⟩
      (s.fixAll Script.parse "a.js" false).2.markOf? key = some .fixed ∧
        s.config.passLimit = .ok 1 ∧
        ∀ m, MarkKey.of "a.js" m = key → ¬ Repairs (s.linter Script.parse) m 1 nested) ∧
    let s := (start ⟨[(["a.js"], encode "~~a")], []⟩).run complementOnly
      [.call (.setWorkspace ".")]
    let s' := (s.fixAll complementOnly "a.js" false).2
    s'.markOf? ⟨"a.js", 1, some "error-bitwise-not"⟩ = some .fixed ∧
      s'.files.read? "a.js" = some (encode "~~a") ∧
      ∀ m, ¬ Repairs (s.linter complementOnly) m 10 (encode "~~a") := by
  constructor
  · intro s key
    have hread : (s.root.map fun root => s.files.readSource? (root.resolve "a.js")) =
        some (some nested) := by decide +kernel
    obtain ⟨root, hroot, hcontent⟩ := Option.map_eq_some_iff.mp hread
    have hlimit : s.config.passLimit = .ok 1 := by decide +kernel
    have hfix : HadFix "a.js" ((s.linter Script.parse).messages nested) key := by
      unfold HadFix
      decide +kernel
    have hswept := (fixAll_marks (configured_run _ _ _) Script.parse "a.js").1 root nested 1 hroot
      hcontent hlimit
    refine ⟨hswept.marked key hfix, hlimit, ?_⟩
    have hwaiting : ∀ m ∈ (s.linter Script.parse).messages nested, MarkKey.of "a.js" m = key →
        ∀ fix ∈ m.fix, fix ∉ selectFixes ((s.linter Script.parse).fixesOf nested) := by
      decide +kernel
    intro m hkey hrepairs
    cases hrepairs with
    | now _ hm hmfix hselected => exact hwaiting m hm hkey _ hmfix hselected
    | later _ hlater => cases hlater
  · intro s s'
    have hread : (s.root.map fun root => s.files.readSource? (root.resolve "a.js")) =
        some (some (encode "~~a")) := by decide +kernel
    obtain ⟨root, hroot, hcontent⟩ := Option.map_eq_some_iff.mp hread
    have hlimit : s.config.passLimit = .ok 10 := by decide +kernel
    have hfix : HadFix "a.js" ((s.linter complementOnly).messages (encode "~~a"))
        ⟨"a.js", 1, some "error-bitwise-not"⟩ := by
      unfold HadFix
      decide +kernel
    have hswept := (fixAll_marks (configured_run _ _ _) complementOnly "a.js").1 root (encode "~~a")
      10 hroot hcontent hlimit
    have hbroken : (s.linter complementOnly).fixPass (encode "~~a") = .broken := by decide +kernel
    exact ⟨hswept.marked _ hfix, by decide +kernel, hswept.dropped hbroken⟩

end TruncIdiom.Session
