import TruncIdiom.Proofs.Lint.CarriedRecords
import TruncIdiom.Proofs.Rule.AppliedFixes
import TruncIdiom.Proofs.Session.FileSafety
import TruncIdiom.Proofs.Session.Marks
import TruncIdiom.Proofs.Session.Preview

/-!
Applying the fix for a line, from the lookup to the mark.

The diagnostic is the first of those nearest to the line (`FirstNearest`). What it carries ends
within the tree, and so within the source, whatever bytes the source holds: the edit is never
skipped (`applyFix_ne_skipped`). `applyFix_exact` goes through the exits of the call: on all but one
the session is as it was, and on that one a single file is written and a single mark put
(`FixDone`).
-/

namespace TruncIdiom.Session

open Text Syntax Rule Lint Workspace Collection

variable {s s' : Session} {parser : Parser} {root : Root} {path : String} {line : Int}
  {accept : Bool} {messages : List Message} {m : Message} {record : SpanEdit} {edit : Edit}
  {content : Bytes}

/-! ## The nearest message -/

/-- Whether a message is the first of those whose line is nearest: all before it are further away,
and none behind it is nearer. -/
def FirstNearest (line : Int) (messages : List Message) (m : Message) : Prop :=
  ∃ before after, messages = before ++ m :: after ∧
    (∀ n ∈ before, lineDistance line m < lineDistance line n) ∧
    ∀ n ∈ after, lineDistance line m ≤ lineDistance line n

theorem nearest?_eq_none_iff : nearest? line messages = none ↔ messages = [] := by
  cases messages with
  | nil => exact iff_of_true rfl rfl
  | cons first rest =>
    simp only [nearest?, reduceCtorEq, iff_false]
    split
    · split <;> simp
    · simp

theorem firstNearest_of_nearest? (h : nearest? line messages = some m) :
    FirstNearest line messages m := by
  induction messages generalizing m with
  | nil => cases h
  | cons first rest ih =>
    simp only [nearest?] at h
    cases hrest : nearest? line rest with
    | none =>
      obtain rfl := nearest?_eq_none_iff.mp hrest
      obtain rfl : first = m := by simpa [hrest] using h
      exact ⟨[], [], rfl, List.forall_mem_nil _, List.forall_mem_nil _⟩
    | some n =>
      obtain ⟨before, after, rfl, hbefore, hafter⟩ := ih hrest
      simp only [hrest] at h
      split at h
      · next hle =>
        -- A tie goes to the message in front.
        obtain rfl := Option.some.inj h
        refine ⟨[], _, rfl, List.forall_mem_nil _, fun other hother => ?_⟩
        rcases List.mem_append.mp hother with hother | hother
        · exact Nat.le_trans hle (Nat.le_of_lt (hbefore other hother))
        · rcases List.mem_cons.mp hother with rfl | hother
          · exact hle
          · exact Nat.le_trans hle (hafter other hother)
      · next hlt =>
        obtain rfl := Option.some.inj h
        exact ⟨first :: before, after, rfl,
          List.forall_mem_cons.mpr ⟨Nat.lt_of_not_le hlt, hbefore⟩, hafter⟩

theorem exists_reason (path : String) (line : Int)
    (h : messages = [] ∨ ∃ m ∈ messages, m.fatal = true) :
    ∃ reason, findAmong path line messages = .error reason := by
  rw [findAmong]
  cases hfatal : messages.find? (·.fatal) with
  | some fatal => exact ⟨_, rfl⟩
  | none =>
    rcases h with rfl | ⟨m, hm, hm'⟩
    · exact ⟨_, rfl⟩
    · exact absurd hm' (List.find?_eq_none.mp hfatal m hm)

theorem exists_found (path : String) (line : Int) (hne : messages ≠ [])
    (hfatal : ∀ m ∈ messages, m.fatal = false) :
    ∃ found, findAmong path line messages = .ok found ∧
      FirstNearest line messages found.message ∧
      (found.hint = none ↔ lineDistance line found.message = 0) := by
  have hnone : messages.find? (·.fatal) = none := by simpa using hfatal
  have hsome : nearest? line messages ≠ none := mt nearest?_eq_none_iff.mp hne
  obtain ⟨m, hm⟩ := Option.ne_none_iff_exists'.mp hsome
  have hdistance : lineDistance line m = 0 ↔ (m.position.line : Int) = line := by
    rw [lineDistance]
    omega
  simp only [findAmong, hnone, hm]
  split
  · next hline =>
    exact ⟨_, rfl, firstNearest_of_nearest? hm, iff_of_true rfl (hdistance.mpr hline)⟩
  · next hline =>
    exact ⟨_, rfl, firstNearest_of_nearest? hm,
      iff_of_false (by simp) (fun h => hline (hdistance.mp h))⟩

/-! ## The record that is chosen -/

theorem chosenRecord?_eq_none_iff :
    chosenRecord? m accept = none ↔ m.fix = none ∧ (accept = false ∨ m.suggestions = []) := by
  cases hfix : m.fix <;> cases accept <;> simp [chosenRecord?, hfix]

theorem chosenEdit?_of_record (h : chosenRecord? m accept = some edit.record) :
    chosenEdit? m accept = some edit := by
  rw [chosenEdit?, h, Option.bind_some]
  show (Edit.make edit.start edit.stop edit.text).toOption = some edit
  rw [Edit.make_natCast edit.ordered]
  rfl

theorem accept_of_chosenRecord? (h : chosenRecord? m accept = some record) (hfix : m.fix = none)
    (source : Bytes) : m.accept source 0 = .ok (decode (record.apply source)) := by
  simp only [chosenRecord?, hfix] at h
  split at h
  · obtain ⟨proposal, hproposal, rfl⟩ := Option.map_eq_some_iff.mp h
    obtain ⟨rest, hsuggestions⟩ := List.head?_eq_some_iff.mp hproposal
    rw [Message.accept, hsuggestions]
    rfl
  · cases h

/-! ## The edit that is written -/

theorem editedContent_of_le (parser : Parser) (h : edit.stop ≤ content.length) :
    editedContent parser content edit =
      if (parser (edit.apply content)).hasError then .error .broken
      else .ok (edit.apply content) := by
  have hin : ∀ e ∈ [edit], e.stop ≤ content.length := by simpa using h
  obtain ⟨-, -, -, hbatch⟩ :=
    agree_of_separate (List.pairwise_singleton _ edit) hin (List.cons_ne_nil _ _)
  have hone : replaceAll content 0 [edit] = edit.apply content := by
    simp only [replaceAll, between_zero]
    rfl
  rw [editedContent, hbatch, hone]
  simp only [List.length_singleton, Nat.one_ne_zero, if_false, isSome_firstFault?]

/-- A session in which one file was written and one diagnostic marked as fixed, and which is as it
was otherwise. -/
structure FixDone (s s' : Session) (full : String) (key : MarkKey) (output : Bytes) : Prop where
  held : s'.files.read? full = some output
  others : ∀ place, s.files.placeOf? full ≠ some place → s'.files.get? place = s.files.get? place
  folders : s'.files.folders = s.files.folders
  marked : Entries.get? s'.marks key = some .fixed
  otherMarks : ∀ other, other ≠ key → Entries.get? s'.marks other = Entries.get? s.marks other
  config : s'.config = s.config
  root : s'.root = s.root

theorem fixDone_of_write {full : String} (hread : s.files.read? full = some content)
    (path : String) (m : Message) (output : Bytes) :
    FixDone s { s with files := s.files.write full output, marks := s.marks.putFixed path m }
      full (MarkKey.of path m) output where
  held := FileMap.read?_write hread output
  others place hplace := FileMap.get?_write_of_ne hplace output
  folders := by
    dsimp only [FileMap.write]
    split <;> rfl
  marked := by rw [get?_putFixed, if_pos rfl]
  otherMarks other hother := by rw [get?_putFixed, if_neg hother.symm]
  config := rfl
  root := rfl

/-! ## The exits of the call -/

theorem applyFix_of_error {reason : String} (hroot : s.root = some root)
    (hfound : s.find parser root path line = .error reason) :
    s.applyFix parser path line accept = s.say reason := by
  rw [applyFix, withRoot, hroot]
  simp only [hfound]

def noFixText (s : Session) (parser : Parser) (root : Root) (path : String) (found : Found) :
    String :=
  found.note ++ "Auto-fix not available.\n\n**Reason:** " ++
    s.noFixReason parser root path found.message

theorem applyFix_of_none {found : Found} (hroot : s.root = some root)
    (hfound : s.find parser root path line = .ok found)
    (hrecord : chosenRecord? found.message accept = none) :
    s.applyFix parser path line accept = s.say (s.noFixText parser root path found) := by
  have hedit : chosenEdit? found.message accept = none := by rw [chosenEdit?, hrecord]; rfl
  rw [applyFix, withRoot, hroot]
  simp only [hfound, hedit]
  rfl

/-- What becomes of an edit within the content of a file: where the parser finds an error in the
result the call says so and does nothing, and otherwise the result is written and the diagnostic
marked. -/
inductive Attempt (s : Session) (parser : Parser) (full path : String) (found : Found)
    (edit : Edit) (output : Bytes) : Outcome → Prop
  | broken (error : (parser output).hasError = true) :
      Attempt s parser full path found edit output (s.say Rejection.broken.message)
  | written {s' : Session} (readable : (parser output).hasError = false)
      (done : FixDone s s' full (MarkKey.of path found.message) output) :
      Attempt s parser full path found edit output (.ok (appliedText path found edit), s')

theorem applyFix_of_edit {found : Found} (hroot : s.root = some root)
    (hfound : s.find parser root path line = .ok found)
    (hedit : chosenEdit? found.message accept = some edit)
    (hcontent : s.files.readSource? (root.resolve path) = some content)
    (hin : edit.stop ≤ content.length) :
    Attempt s parser (root.resolve path) path found edit (edit.apply content)
      (s.applyFix parser path line accept) := by
  have hread := (FileMap.readSource?_eq_some.mp hcontent).1
  have hcall : s.applyFix parser path line accept = s.applyFound parser root path found edit := by
    rw [applyFix, withRoot, hroot]
    simp only [hfound, hedit]
  rw [hcall, applyFound, hread, Option.getD_some, editedContent_of_le parser hin]
  cases herror : (parser (edit.apply content)).hasError with
  | true => exact .broken herror
  | false => exact .written herror (fixDone_of_write hread path found.message _)

/-! ## No edit is skipped -/

theorem firstChar?_noFixText (s : Session) (parser : Parser) (root : Root) (path : String)
    (found : Found) :
    firstChar? (s.noFixText parser root path found) = some '>' ∨
      firstChar? (s.noFixText parser root path found) = some 'A' := by
  obtain ⟨message, hint⟩ := found
  cases hint with
  | none =>
    right
    simp only [noFixText, Found.note, String.empty_append]
    exact firstChar?_append rfl
  | some hint =>
    left
    simp only [noFixText, Found.note]
    repeat refine firstChar?_append ?_
    rfl

theorem ne_skipped_of_firstChar? {text : String} {c : Char} (h : firstChar? text = some c)
    (hc : c ≠ 'E') : (.ok text : Reply) ≠ .ok Rejection.skipped.message := by
  intro hsame
  obtain rfl := Except.ok.inj hsame
  exact hc (Option.some.inj h).symm

theorem Attempt.fixDone {found : Found} {output : Bytes} {outcome : Outcome}
    {full : String} (h : Attempt s parser full path found edit output outcome)
    (hreadable : (parser output).hasError = false) :
    FixDone s outcome.2 full (MarkKey.of path found.message) output := by
  cases h with
  | broken herror => exact absurd (hreadable.symm.trans herror) (by decide)
  | written _ hdone => exact hdone

theorem Attempt.ne_skipped {found : Found} {output : Bytes} {outcome : Outcome} {full : String}
    (h : Attempt s parser full path found edit output outcome) :
    outcome.1 ≠ .ok Rejection.skipped.message := by
  cases h with
  | broken _ => exact fun hsame => absurd (Except.ok.inj hsame) (by decide)
  | written _ _ =>
    rcases firstChar?_appliedText path found edit with hfirst | hfirst <;>
      exact ne_skipped_of_firstChar? hfirst (by decide)

/-! ## The call as a whole -/

/-- The edit that is chosen for a diagnostic of a nested tree lies within the content. -/
theorem exists_chosenEdit {found : Found} (hfound : s.find parser root path line = .ok found)
    (hcontent : s.files.readSource? (root.resolve path) = some content)
    (hnested : (parser content).Nested) (hstop : (parser content).info.stop ≤ content.length)
    (hrecord : chosenRecord? found.message accept = some record) :
    ∃ edit : Edit, edit.record = record ∧ chosenEdit? found.message accept = some edit ∧
      edit.stop ≤ content.length := by
  obtain ⟨content', hcontent', hmem, -⟩ := of_find hfound
  obtain rfl : content' = content := Option.some.inj (hcontent'.symm.trans hcontent)
  obtain ⟨edit, rfl, hedit⟩ :=
    exists_edit_of_carries rfl hnested hmem (carries_of_chosenRecord? hrecord)
  exact ⟨edit, rfl, chosenEdit?_of_record hrecord, Nat.le_trans hedit hstop⟩

/-- Over a nested tree that lies within its source no edit is skipped. -/
theorem applyFix_ne_skipped (hroot : s.root = some root)
    (hwell : ∀ content, s.files.readSource? (root.resolve path) = some content →
      (parser content).Nested ∧ (parser content).info.stop ≤ content.length) :
    (s.applyFix parser path line accept).1 ≠ .ok Rejection.skipped.message := by
  cases hfound : s.find parser root path line with
  | error reason =>
    rw [applyFix_of_error hroot hfound]
    rcases firstChar?_of_find hfound with hfirst | hfirst <;>
      exact ne_skipped_of_firstChar? hfirst (by decide)
  | ok found =>
    cases hrecord : chosenRecord? found.message accept with
    | none =>
      rw [applyFix_of_none hroot hfound hrecord]
      rcases firstChar?_noFixText s parser root path found with hfirst | hfirst <;>
        exact ne_skipped_of_firstChar? hfirst (by decide)
    | some record =>
      obtain ⟨content, hcontent, -⟩ := of_find hfound
      obtain ⟨hnested, hstop⟩ := hwell content hcontent
      obtain ⟨edit, -, hedit, hin⟩ := exists_chosenEdit hfound hcontent hnested hstop hrecord
      exact (applyFix_of_edit hroot hfound hedit hcontent hin).ne_skipped

/-- The call for a line of a file whose tree is nested and lies within the source. The diagnostic is
the first of the nearest, with a hint when it stands on another line. Where there is none, or the
file cannot be read, or nothing may be applied, or the result does not parse, the session stays as
it was. Otherwise the file holds the source with the record in its place and the diagnostic is
marked, and nothing else changes; over a text with the offsets of the tree between characters, what
a suggestion leaves is what accepting it makes of the source. No edit is ever skipped. -/
theorem applyFix_exact (line : Int) (accept : Bool) (hroot : s.root = some root)
    (hwell : ∀ content, s.files.readSource? (root.resolve path) = some content →
      (parser content).Nested ∧ (parser content).info.stop ≤ content.length) :
    let messages := s.messagesFor parser root path
    let outcome := s.applyFix parser path line accept
    outcome.1 ≠ .ok Rejection.skipped.message ∧
    (messages = [] ∨ (∃ m ∈ messages, m.fatal = true) → outcome.2 = s) ∧
    (messages ≠ [] → (∀ m ∈ messages, m.fatal = false) → ∃ found,
      s.find parser root path line = .ok found ∧
      FirstNearest line messages found.message ∧
      (found.hint = none ↔ lineDistance line found.message = 0) ∧
      (found.message.fix = none → accept = false ∨ found.message.suggestions = [] →
        outcome = s.say (s.noFixText parser root path found)) ∧
      ∀ record, chosenRecord? found.message accept = some record → ∃ content edit output,
        s.files.readSource? (root.resolve path) = some content ∧
        edit.record = record ∧ edit.stop ≤ content.length ∧
        output = content.take edit.start ++ encode edit.text ++ content.drop edit.stop ∧
        Attempt s parser (root.resolve path) path found edit output outcome ∧
        (found.message.fix = none →
          (∀ p ∈ (parser content).places [], AtBoundaries content p.info) →
          ∃ text, found.message.accept content 0 = .ok text ∧ output = encode text)) := by
  intro messages outcome
  refine ⟨applyFix_ne_skipped hroot hwell, ?_, ?_⟩
  · intro hnone
    obtain ⟨reason, hreason⟩ := exists_reason path line hnone
    exact congrArg Prod.snd (applyFix_of_error hroot hreason)
  · intro hne hfatal
    obtain ⟨found, hfound, hnearest, hhint⟩ := exists_found path line hne hfatal
    refine ⟨found, hfound, hnearest, hhint, ?_, ?_⟩
    · intro hfix hsuggestions
      exact applyFix_of_none hroot hfound (chosenRecord?_eq_none_iff.mpr ⟨hfix, hsuggestions⟩)
    · intro record hrecord
      obtain ⟨content, hcontent, hmem, -⟩ := of_find hfound
      obtain ⟨hnested, hstop⟩ := hwell content hcontent
      obtain ⟨edit, rfl, hedit, hin⟩ := exists_chosenEdit hfound hcontent hnested hstop hrecord
      refine ⟨content, edit, edit.apply content, hcontent, rfl, hin, rfl,
        applyFix_of_edit hroot hfound hedit hcontent hin, ?_⟩
      intro hfix hboundary
      obtain ⟨text, htext⟩ := exists_text_of_carries rfl hnested hboundary hmem
        (carries_of_chosenRecord? hrecord)
      rw [Edit.record_apply] at htext
      refine ⟨text, ?_, htext⟩
      rw [accept_of_chosenRecord? hrecord hfix, Edit.record_apply, htext, decode_encode]

/-- An operation that only has a suggestion, in the one file of a workspace. -/
def suggestedOnly : Session :=
  { files := ⟨[(["a.js"], encode "a|0")], []⟩, root := some ⟨".", .int 100⟩ }

/-- Asked for on another line it is found with a hint, and its suggestion has to be accepted to be
written. -/
theorem applyFix_exact_suggestedOnly :
    let root : Root := ⟨".", .int 100⟩
    suggestedOnly.root = some root ∧
    (∀ content, suggestedOnly.files.readSource? (root.resolve "a.js") = some content →
      (Script.parse content).Nested ∧ (Script.parse content).info.stop ≤ content.length) ∧
    ∃ found, suggestedOnly.find Script.parse root "a.js" 2 = .ok found ∧ found.hint ≠ none ∧
      (suggestedOnly.applyFix Script.parse "a.js" 2 false).2 = suggestedOnly ∧
      FixDone suggestedOnly (suggestedOnly.applyFix Script.parse "a.js" 2 true).2
        (root.resolve "a.js") ⟨"a.js", 1, some "error-bitwise"⟩ (encode "Math.trunc(a)") ∧
      found.message.accept (encode "a|0") 0 = .ok "Math.trunc(a)" := by
  intro root
  have hsource : suggestedOnly.files.readSource? (root.resolve "a.js") = some (encode "a|0") := by
    decide +kernel
  have hwell : ∀ content, suggestedOnly.files.readSource? (root.resolve "a.js") = some content →
      (Script.parse content).Nested ∧ (Script.parse content).info.stop ≤ content.length := by
    intro content hcontent
    obtain rfl := Option.some.inj (hsource.symm.trans hcontent)
    decide +kernel
  have hmessages : suggestedOnly.messagesFor Script.parse root "a.js" ≠ [] ∧
      ∀ m ∈ suggestedOnly.messagesFor Script.parse root "a.js", m.fatal = false := by
    decide +kernel
  have hanswer : (suggestedOnly.find Script.parse root "a.js" 2).toOption.map (fun found =>
      (found.hint.isSome, found.message.fix, MarkKey.of "a.js" found.message,
        chosenRecord? found.message true)) =
      some (true, none, ⟨"a.js", 1, some "error-bitwise"⟩, some ⟨0, 3, "Math.trunc(a)"⟩) := by
    decide +kernel
  obtain ⟨-, -, hrefused⟩ := applyFix_exact 2 false rfl hwell
  obtain ⟨-, -, haccepted⟩ := applyFix_exact 2 true rfl hwell
  obtain ⟨found, hfound, -, -, hnone, -⟩ := hrefused hmessages.1 hmessages.2
  obtain ⟨found', hfound', -, -, -, happlied⟩ := haccepted hmessages.1 hmessages.2
  obtain rfl := Except.ok.inj (hfound'.symm.trans hfound)
  rw [hfound] at hanswer
  simp only [Except.toOption, Option.map_some, Option.some.injEq, Prod.mk.injEq] at hanswer
  obtain ⟨hhint, hfix, hkey, hrecord⟩ := hanswer
  obtain ⟨content, edit, output, hcontent, hedit, -, houtput, hattempt, htext⟩ :=
    happlied _ hrecord
  obtain rfl := Option.some.inj (hsource.symm.trans hcontent)
  have hwritten : output = encode "Math.trunc(a)" := by
    rw [houtput]
    show edit.apply (encode "a|0") = _
    rw [← Edit.record_apply, hedit]
    decide +kernel
  subst hwritten
  have hdone := hattempt.fixDone (by decide +kernel)
  obtain ⟨text, haccept, hsame⟩ := htext hfix (by decide +kernel)
  rw [hkey] at hdone
  refine ⟨rfl, hwell, found', hfound, ?_, ?_, hdone, ?_⟩
  · intro hmissing
    rw [hmissing] at hhint
    cases hhint
  · rw [hnone hfix (.inl rfl)]
    rfl
  · rw [haccept, ← decode_encode text, ← hsame, decode_encode]

end TruncIdiom.Session
