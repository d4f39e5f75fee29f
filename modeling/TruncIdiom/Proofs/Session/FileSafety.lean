import TruncIdiom.Proofs.Session.Outcome

/-!
When a session changes a file.

`Repair` says what holds of a call when it changes the file at a place. `repair_of_changed` is the
step lemma: a call changes a file in no other way, in any session. `run_repairs` carries it through
every run of calls: at its end a file holds what it held at the start, or what the last repair left
in it. A call that answers with an error, or that nothing was found, changes no file at all.
-/

namespace TruncIdiom.Session

open Text Syntax Rule Lint Workspace

variable {s : Session} {parser : Parser} {root : Root} {path : String} {line : Int} {call : Call}
  {place : Place} {old new : Bytes}

/-! ## Repairs -/

/-- Whether a call may apply what a message offers: its fix, or a suggestion that the call
accepts. -/
def Call.Applies : Call → Message → Prop
  | .applyFix _ _ accept, m => m.fix.isSome = true ∨ accept = true ∧ m.suggestions ≠ []
  | .fixAll _ dryRun, m => dryRun = false ∧ m.fix.isSome = true
  | _, _ => False

/-- Whether what a call makes of a content is UTF-8, where this matters: the bytes that fixing a
whole file ends with are written as the text that is read from them. -/
def Call.MakesText (s : Session) (parser : Parser) (content : Bytes) : Call → Prop
  | .fixAll _ _ => ∀ limit, s.config.passLimit = .ok limit →
      ∃ text, (s.linter parser).fixedSource limit content = encode text
  | _ => True

/-- A call that may change the file at a place from one content to another. The file was a source
that could be read and had something to apply, and the new content can be read as well. -/
structure Repair (s : Session) (parser : Parser) (call : Call) (place : Place)
    (old new : Bytes) : Prop where
  resolves : ∃ root path, s.root = some root ∧ call.repairedPath? = some path ∧
    s.files.placeOf? (root.resolve path) = some place
  held : s.files.get? place = some old
  isSource : FileMap.isSource old = true
  readable : (parser old).hasError = false
  offered : ∃ m ∈ (s.linter parser).messages old, call.Applies m
  sound : call.MakesText s parser old → (parser new).hasError = false
  leaves : (s.call parser call).2.files.get? place = some new

theorem offers_of_chosenEdit? {m : Message} {accept : Bool} {edit : Edit}
    (h : chosenEdit? m accept = some edit) :
    m.fix.isSome = true ∨ accept = true ∧ m.suggestions ≠ [] := by
  obtain ⟨record, hrecord, -⟩ := Option.bind_eq_some_iff.mp h
  unfold chosenRecord? at hrecord
  split at hrecord
  · next fix hfix => exact .inl (by rw [hfix]; rfl)
  · split at hrecord
    · next haccept =>
      refine .inr ⟨haccept, ?_⟩
      intro hnone
      rw [hnone] at hrecord
      cases hrecord
    · cases hrecord

theorem eq_place_of_write {content output : Bytes}
    (hcontent : s.files.readSource? path = some content)
    (hchanged : (s.files.write path output).get? place ≠ s.files.get? place) :
    s.files.placeOf? path = some place ∧ s.files.get? place = some content ∧
      FileMap.isSource content = true ∧
      (s.files.write path output).get? place = some output := by
  obtain ⟨hread, hsource⟩ := FileMap.readSource?_eq_some.mp hcontent
  obtain ⟨written, hplace, hheld⟩ := FileMap.read?_eq_some.mp hread
  have hhere : s.files.placeOf? path = some place := by
    -- A write goes to one place only.
    by_contra hother
    exact hchanged (FileMap.get?_write_of_ne hother output)
  obtain rfl : written = place := Option.some.inj (hplace.symm.trans hhere)
  refine ⟨hplace, hheld, hsource, ?_⟩
  rw [FileMap.write_eq hplace, FileMap.get?_put_self]

theorem repair_of_changed
    (h : (s.call parser call).2.files.get? place ≠ s.files.get? place) :
    ∃ old new, Repair s parser call place old new := by
  cases hpath : call.repairedPath? with
  | none =>
    rw [files_call s parser hpath] at h
    exact absurd rfl h
  | some path =>
    cases call with
    | applyFix path line accept =>
      rcases applyFix_cases s parser path line accept with
        hsame | ⟨root, found, content, edit, output, hroot, hfound, hedit, hcontent, hedited, hcall⟩
      · exact absurd (congrArg (fun s : Session => s.files.get? place) hsame) h
      have hfiles : (s.call parser (.applyFix path line accept)).2.files =
          s.files.write (root.resolve path) output := by rw [Session.call, hcall]
      rw [hfiles] at h
      obtain ⟨hplace, hheld, hsource, hleaves⟩ := eq_place_of_write hcontent h
      obtain ⟨content', hcontent', hmem, hfatal⟩ := of_find hfound
      -- The source that was linted is the one that is edited.
      obtain rfl : content' = content := Option.some.inj (hcontent'.symm.trans hcontent)
      obtain ⟨-, -, hsound⟩ := editedContent_eq_ok hedited
      exact ⟨content', output,
        { resolves := ⟨root, path, hroot, rfl, hplace⟩
          held := hheld
          isSource := hsource
          readable := (readable_of_mem hmem hfatal).2
          offered := ⟨found.message, hmem, offers_of_chosenEdit? hedit⟩
          sound := fun _ => hsound
          leaves := by rw [hfiles, hleaves] }⟩
    | fixAll path dryRun =>
      rcases fixAll_cases s parser path dryRun with
        hsame | ⟨root, result, files, hroot, rfl, hfixed, hcall⟩
      · exact absurd (congrArg (fun s : Session => s.files.get? place) hsame) h
      have hfiles : (s.call parser (.fixAll path false)).2.files = files := by
        rw [Session.call, hcall]
      rw [hfiles] at h
      rcases fixFile_cases hfixed with rfl | ⟨content, limit, hcontent, hlimit, -, hne, rfl⟩
      · exact absurd rfl h
      obtain ⟨hplace, hheld, hsource, hleaves⟩ := eq_place_of_write hcontent h
      obtain ⟨hreadable, ⟨m, hm, hfix⟩, hsound⟩ := of_fixedSource_ne hne
      refine ⟨content, _,
        { resolves := ⟨root, path, hroot, rfl, hplace⟩
          held := hheld
          isSource := hsource
          readable := hreadable
          offered := ⟨m, hm, rfl, hfix⟩
          sound := ?_
          leaves := by rw [hfiles, hleaves] }⟩
      -- The parser has accepted the fixed bytes, and what is written is their text.
      intro htext
      rw [encode_decode_iff.mpr (htext limit hlimit)]
      exact hsound
    | _ => cases hpath

/-! ## Replies that say that nothing was done -/

/-- A reply that says that nothing was done: the call failed, it answers with an error, or with the
reason why a diagnostic was not found. -/
inductive Refusal (s : Session) (parser : Parser) : Reply → Prop
  | failed (e : ConfigError) : Refusal s parser (.error e)
  | error {text : String} : "Error".toList <+: text.toList → Refusal s parser (.ok text)
  | notFound {root : Root} {path : String} {line : Int} {reason : String} : s.root = some root →
      s.find parser root path line = .error reason → Refusal s parser (.ok reason)

def firstChar? (text : String) : Option Char := text.toList.head?

theorem firstChar?_append {a b : String} {c : Char} (h : firstChar? a = some c) :
    firstChar? (a ++ b) = some c := by
  rw [firstChar?, String.toList_append, List.head?_append]
  rw [firstChar?] at h
  rw [h]
  rfl

theorem firstChar?_of_find {reason : String} (h : s.find parser root path line = .error reason) :
    firstChar? reason = some '`' ∨ firstChar? reason = some 'N' := by
  rw [find, findAmong] at h
  split at h
  · left
    obtain rfl := Except.error.inj h
    repeat refine firstChar?_append ?_
    rfl
  · split at h
    · split at h <;> cases h
    · right
      obtain rfl := Except.error.inj h
      repeat refine firstChar?_append ?_
      rfl

theorem firstChar?_of_refusal {text : String} (h : Refusal s parser (.ok text)) :
    firstChar? text = some 'E' ∨ firstChar? text = some '`' ∨ firstChar? text = some 'N' := by
  cases h with
  | error h =>
    obtain ⟨rest, hrest⟩ := h
    exact .inl (by rw [firstChar?, ← hrest]; rfl)
  | notFound _ h => exact .inr (firstChar?_of_find h)

theorem firstChar?_appliedText (path : String) (found : Found) (edit : Edit) :
    firstChar? (appliedText path found edit) = some '>' ∨
      firstChar? (appliedText path found edit) = some 'S' := by
  obtain ⟨message, hint⟩ := found
  cases hint with
  | none =>
    right
    simp only [appliedText, Found.note, String.empty_append]
    repeat refine firstChar?_append ?_
    rfl
  | some hint =>
    left
    simp only [appliedText, Found.note]
    repeat refine firstChar?_append ?_
    rfl

theorem firstChar?_fixAllText (path : String) (before : LintResult) (result : FixResult)
    (dryRun : Bool) : firstChar? (fixAllText path before result dryRun) = some '#' := by
  unfold fixAllText
  iterate 4 refine firstChar?_append ?_
  rfl

/-- A call that says that nothing was done leaves every file alone: replies of calls that did write
do not begin as refusals do. -/
theorem files_of_refusal (h : Refusal s parser (s.call parser call).1) :
    (s.call parser call).2.files = s.files := by
  cases hpath : call.repairedPath? with
  | none => exact files_call s parser hpath
  | some path =>
    cases call with
    | applyFix path line accept =>
      rcases applyFix_cases s parser path line accept with
        hsame | ⟨root, found, content, edit, output, -, -, -, -, -, hcall⟩
      · exact congrArg Session.files hsame
      · rw [Session.call, hcall] at h
        have hrefused := firstChar?_of_refusal h
        rcases firstChar?_appliedText path found edit with hfirst | hfirst <;>
          simp [hfirst] at hrefused
    | fixAll path dryRun =>
      rcases fixAll_cases s parser path dryRun with
        hsame | ⟨root, result, files, -, -, -, hcall⟩
      · exact congrArg Session.files hsame
      · rw [Session.call, hcall] at h
        have hrefused := firstChar?_of_refusal h
        simp [firstChar?_fixAllText] at hrefused
    | _ => cases hpath

/-! ## Runs of calls -/

def runCalls (s : Session) (parser : Parser) (calls : List Call) : Session :=
  s.run parser (calls.map .call)

theorem runCalls_cons (s : Session) (parser : Parser) (call : Call) (calls : List Call) :
    s.runCalls parser (call :: calls) = (s.call parser call).2.runCalls parser calls := rfl

/-- After a run of calls a file holds what it held before, or what the last repair of it left. -/
theorem held_or_repaired (s : Session) (parser : Parser) (calls : List Call) (place : Place) :
    (s.runCalls parser calls).files.get? place = s.files.get? place ∨
      ∃ before call after old new, calls = before ++ call :: after ∧
        Repair (s.runCalls parser before) parser call place old new ∧
        (s.runCalls parser calls).files.get? place = some new := by
  induction calls generalizing s with
  | nil => exact .inl rfl
  | cons call calls ih =>
    -- The last repair is among the calls that follow, or else it is this call.
    rw [runCalls_cons]
    rcases ih (s.call parser call).2 with
      hsame | ⟨before, call', after, old, new, rfl, hrepair, hnew⟩
    · by_cases hchanged : (s.call parser call).2.files.get? place = s.files.get? place
      · exact .inl (hsame.trans hchanged)
      · obtain ⟨old, new, hrepair⟩ := repair_of_changed hchanged
        exact .inr ⟨[], call, calls, old, new, rfl, hrepair, hsame.trans hrepair.leaves⟩
    · exact .inr ⟨call :: before, call', after, old, new, rfl, hrepair, hnew⟩

/-- In a run of calls every change of a file is a repair of it, and a call that says that nothing
was done changes none. So at the end a file holds what it held at the start, or what was left by
a repair. -/
theorem run_repairs (files : FileMap) (parser : Parser) (calls : List Call) :
    (∀ before call after, calls = before ++ call :: after →
      let s := (start files).runCalls parser before
      (∀ place, (s.call parser call).2.files.get? place ≠ s.files.get? place →
        ∃ old new, Repair s parser call place old new) ∧
      (call.repairedPath? = none → (s.call parser call).2.files = s.files) ∧
      (Refusal s parser (s.call parser call).1 → (s.call parser call).2.files = s.files)) ∧
    ∀ place, ((start files).runCalls parser calls).files.get? place = files.get? place ∨
      ∃ before call after old new, calls = before ++ call :: after ∧
        Repair ((start files).runCalls parser before) parser call place old new ∧
        ((start files).runCalls parser calls).files.get? place = some new := by
  constructor
  · intro before call after _
    exact ⟨fun _ => repair_of_changed, files_call _ parser, files_of_refusal⟩
  · exact held_or_repaired (start files) parser calls

/-- A file with a double complement is repaired by the call that asks for it. -/
theorem run_repairs_complement :
    let files : FileMap := ⟨[(["a.js"], encode "~~a")], []⟩
    let calls : List Call := [.setWorkspace ".", .applyFix "a.js" 1 false]
    let held := ((start files).runCalls Script.parse calls).files.get? ["a.js"]
    held = some (encode "Math.trunc(a)") ∧
      ∃ before call after old new, calls = before ++ call :: after ∧
        Repair ((start files).runCalls Script.parse before) Script.parse call ["a.js"] old new ∧
        held = some new := by
  intro files calls held
  have hheld : held = some (encode "Math.trunc(a)") := by decide +kernel
  refine ⟨hheld, ?_⟩
  rcases (run_repairs files Script.parse calls).2 ["a.js"] with hsame | hrepaired
  · have hstart : files.get? ["a.js"] ≠ some (encode "Math.trunc(a)") := by decide
    exact absurd (hsame.symm.trans hheld) hstart
  · exact hrepaired

end TruncIdiom.Session
