import TruncIdiom.Edit.Batch
import TruncIdiom.Proofs.Collection.StableSort
import TruncIdiom.Workspace.FileBatch

/-!
Edits as they are sent, and the edits they stand for.

A plain edit has whole offsets and a text, as far as it has them. It stands for an edit, or its span
is not in order, or it lacks a field; nothing else can come of it (`SentEdit.request_of_plain`). The
edits of a file are read from the first to the last, so the first that cannot be built decides what
becomes of all (`requests_of_plain`). Once all are built they are a batch as any other:
`applyRequests_map` says that it comes to the same over offsets of any kind.
-/

namespace TruncIdiom.Workspace

open Text Json Collection Decimal

variable {edits : List SentEdit} {sent : SentEdit} {request : Request}

/-! ## What an edit stands for -/

/-- The whole number that a value is. A truth value counts as one or zero. -/
def wholeOf? : Value → Option Int
  | .int n => some n
  | .bool b => some (if b then 1 else 0)
  | _ => none

def textOf? : Value → Option String
  | .string text => some text
  | _ => none

def Request.ofEdit (e : Edit) : Request := ⟨⟨.whole e.start, .whole e.stop⟩, .string e.text⟩

def Request.edit? (r : Request) : Option Edit :=
  match r.span.start, r.span.stop, r.text with
  | .whole start, .whole stop, .string text => (Edit.make start stop text).toOption
  | _, _, _ => none

def editFields : List String := ["start_byte", "end_byte", "text"]

/-- The edit that is sent, if it can be built. -/
def SentEdit.edit? : SentEdit → Option Edit
  | .ready request => request.edit?
  | .object fields => do
    let start ← (Entries.get? fields "start_byte").bind wholeOf?
    let stop ← (Entries.get? fields "end_byte").bind wholeOf?
    let text ← (Entries.get? fields "text").bind textOf?
    (Edit.make start stop text).toOption

def SentEdit.lacking? : SentEdit → Option String
  | .ready _ => none
  | .object fields => editFields.find? fun name => (Entries.get? fields name).isNone

/-- Whether an edit is ready made, or an object of which the offsets it has are whole and the text
it has is a text. What other fields hold is not asked. -/
def SentEdit.isPlain : SentEdit → Bool
  | .ready request => request.edit?.isSome
  | .object fields =>
    (Entries.get? fields "start_byte").all (fun value => (wholeOf? value).isSome) &&
      (Entries.get? fields "end_byte").all (fun value => (wholeOf? value).isSome) &&
      (Entries.get? fields "text").all fun value => (textOf? value).isSome

/-! ## Offsets -/

theorem scaledInt_ofInt (n : Int) : scaledInt (decide (n < 0)) n.natAbs 0 0 = n := by
  simp only [scaledInt, pow2, Int.sub_self, Int.toNat_zero, Nat.pow_eq, Nat.pow_zero, Nat.mul_one,
    decide_eq_true_eq]
  omega

theorem whole_lt_whole {a b : Int} : Offset.whole a < Offset.whole b ↔ a < b := by
  show (Shape.ofInt a).below (.ofInt b) = true ↔ a < b
  simp only [Shape.ofInt, Shape.below, Int.min_self, scaledInt_ofInt, decide_eq_true_eq]

theorem offsetOf_of_whole {value : Value} {n : Int} (h : wholeOf? value = some n) (other : Kind) :
    offsetOf value other = .ok (.whole n) := by
  cases value with
  | int k =>
    obtain rfl := Option.some.inj h
    rfl
  | bool b =>
    obtain rfl := Option.some.inj h
    rfl
  | _ => cases h

theorem eq_string_of_textOf? {value : Value} {text : String} (h : textOf? value = some text) :
    value = .string text := by
  cases value with
  | string s => exact congrArg Value.string (Option.some.inj h)
  | _ => cases h

/-! ## One edit -/

theorem eq_ofEdit_of_make {a b : Int} {text : String} {e : Edit}
    (h : (Edit.make a b text).toOption = some e) :
    (⟨⟨.whole a, .whole b⟩, .string text⟩ : Request) = .ofEdit e := by
  unfold Edit.make at h
  split at h
  · next hordered =>
    obtain rfl := Option.some.inj h
    simp only [Request.ofEdit, Int.toNat_of_nonneg hordered.1,
      Int.toNat_of_nonneg (Int.le_trans hordered.1 hordered.2)]
  · cases h

theorem eq_ofEdit_of_edit? {e : Edit} (h : request.edit? = some e) : request = .ofEdit e := by
  obtain ⟨⟨start, stop⟩, text⟩ := request
  unfold Request.edit? at h
  split at h
  · next start stop text hstart hstop htext =>
    dsimp only at hstart hstop htext
    subst hstart hstop htext
    exact eq_ofEdit_of_make h
  · cases h

/-- Two whole offsets and a text make a request exactly when they make an edit. -/
theorem Request.make_of_whole {start stop : Value} {a b : Int} (hstart : wholeOf? start = some a)
    (hstop : wholeOf? stop = some b) (text : String) :
    (∃ e, (Edit.make a b text).toOption = some e ∧
        Request.make start stop (.string text) = .ok (.ofEdit e)) ∨
      (Edit.make a b text).toOption = none ∧
        Request.make start stop (.string text) = .error (.invalidSpan start.text stop.text) := by
  have hmake : Request.make start stop (.string text) =
      if a < 0 then .error (.invalidSpan start.text stop.text)
      else if b < a then .error (.invalidSpan start.text stop.text)
      else .ok ⟨⟨.whole a, .whole b⟩, .string text⟩ := by
    simp only [Request.make, offsetOf_of_whole hstart, offsetOf_of_whole hstop, bind, Except.bind,
      whole_lt_whole]
    split
    · rfl
    · split <;> rfl
  by_cases hordered : 0 ≤ a ∧ a ≤ b
  · have hedit : (Edit.make a b text).toOption = some ⟨a.toNat, b.toNat, text, by omega⟩ := by
      rw [Edit.make, dif_pos hordered]
      rfl
    refine .inl ⟨_, hedit, ?_⟩
    rw [hmake, if_neg (by omega), if_neg (by omega), eq_ofEdit_of_make hedit]
  · refine .inr ⟨?_, ?_⟩
    · rw [Edit.make, dif_neg hordered]
      rfl
    · rw [hmake]
      split
      · rfl
      · rw [if_pos (by omega)]

/-- A plain edit stands for an edit, has a span that is not in order, or lacks a field. -/
theorem SentEdit.request_of_plain (h : sent.isPlain = true) :
    (∃ e, sent.edit? = some e ∧ sent.request = .ok (.ofEdit e)) ∨
      (sent.edit? = none ∧ sent.lacking? = none ∧
        ∃ start stop, sent.request = .error (.invalidSpan start stop)) ∨
      ∃ name, sent.edit? = none ∧ sent.lacking? = some name ∧
        sent.request = .error (.missingField name) := by
  cases sent with
  | ready request =>
    obtain ⟨e, he⟩ := Option.isSome_iff_exists.mp h
    exact .inl ⟨e, he, congrArg Except.ok (eq_ofEdit_of_edit? he)⟩
  | object fields =>
    simp only [isPlain, Bool.and_eq_true] at h
    obtain ⟨⟨hstart, hstop⟩, htext⟩ := h
    -- The fields are looked up in turn, and the first that is not there ends it.
    cases hfirst : Entries.get? fields "start_byte" with
    | none =>
      refine .inr (.inr ⟨"start_byte", ?_, ?_, ?_⟩)
      · simp [edit?, hfirst]
      · simp [lacking?, editFields, hfirst]
      · simp [request, sentField, hfirst, bind, Except.bind]
    | some start =>
      cases hsecond : Entries.get? fields "end_byte" with
      | none =>
        refine .inr (.inr ⟨"end_byte", ?_, ?_, ?_⟩)
        · simp [edit?, hsecond]
        · simp [lacking?, editFields, hfirst, hsecond]
        · simp [request, sentField, hfirst, hsecond, bind, Except.bind]
      | some stop =>
        cases hthird : Entries.get? fields "text" with
        | none =>
          refine .inr (.inr ⟨"text", ?_, ?_, ?_⟩)
          · simp [edit?, hthird]
          · simp [lacking?, editFields, hfirst, hsecond, hthird]
          · simp [request, sentField, hfirst, hsecond, hthird, bind, Except.bind]
        | some value =>
          rw [hfirst] at hstart
          rw [hsecond] at hstop
          rw [hthird] at htext
          obtain ⟨a, ha⟩ := Option.isSome_iff_exists.mp hstart
          obtain ⟨b, hb⟩ := Option.isSome_iff_exists.mp hstop
          obtain ⟨text, hvalue⟩ := Option.isSome_iff_exists.mp htext
          obtain rfl := eq_string_of_textOf? hvalue
          have hedit : (object fields).edit? = (Edit.make a b text).toOption := by
            simp [edit?, hfirst, hsecond, hthird, ha, hb, hvalue]
          have hlacking : (object fields).lacking? = none := by
            simp [lacking?, editFields, hfirst, hsecond, hthird]
          have hrequest : (object fields).request = Request.make start stop (.string text) := by
            simp [request, sentField, hfirst, hsecond, hthird, bind, Except.bind]
          rw [hedit, hlacking, hrequest]
          rcases Request.make_of_whole ha hb text with ⟨e, he, hmade⟩ | ⟨he, hmade⟩
          · exact .inl ⟨e, he, hmade⟩
          · exact .inr (.inl ⟨he, rfl, start.text, stop.text, hmade⟩)

/-! ## The edits of one file -/

/-- The field for which the edits of a file end the run: the first edit that cannot be built lacks
it. -/
def halt? (edits : List SentEdit) : Option String :=
  (edits.find? fun sent => sent.edit?.isNone).bind SentEdit.lacking?

/-- Plain edits of a file are all built, or the first that cannot be has a span that is not in
order, or it lacks a field. -/
theorem requests_of_plain (hplain : ∀ sent ∈ edits, sent.isPlain = true) :
    (∃ es, edits.mapM SentEdit.edit? = some es ∧ halt? edits = none ∧
        edits.mapM SentEdit.request = .ok (es.map .ofEdit)) ∨
      (edits.mapM SentEdit.edit? = none ∧ halt? edits = none ∧
        ∃ start stop, edits.mapM SentEdit.request = .error (.invalidSpan start stop)) ∨
      ∃ name, edits.mapM SentEdit.edit? = none ∧ halt? edits = some name ∧
        edits.mapM SentEdit.request = .error (.missingField name) := by
  induction edits with
  | nil => exact .inl ⟨[], rfl, rfl, rfl⟩
  | cons sent edits ih =>
    have hlater := ih fun other hother => hplain other (List.mem_cons_of_mem _ hother)
    simp only [List.mapM_cons, halt?]
    rcases SentEdit.request_of_plain (hplain sent List.mem_cons_self) with
      ⟨e, hedit, hrequest⟩ | ⟨hedit, hlacking, start, stop, hrequest⟩ |
        ⟨name, hedit, hlacking, hrequest⟩
    · -- An edit that is built leaves the decision to those behind it.
      rw [List.find?_cons_of_neg (by simp [hedit]), ← halt?, hedit, hrequest]
      rcases hlater with ⟨es, hes, hhalt, hrequests⟩ | ⟨hes, hhalt, start, stop, hrequests⟩ |
        ⟨name, hes, hhalt, hrequests⟩
      · rw [hes, hrequests]
        exact .inl ⟨e :: es, rfl, hhalt, rfl⟩
      · rw [hes, hrequests]
        exact .inr (.inl ⟨rfl, hhalt, start, stop, rfl⟩)
      · rw [hes, hrequests]
        exact .inr (.inr ⟨name, rfl, hhalt, rfl⟩)
    · rw [List.find?_cons_of_pos (by rw [hedit]; rfl), hedit, hrequest]
      exact .inr (.inl ⟨rfl, hlacking, start, stop, rfl⟩)
    · rw [List.find?_cons_of_pos (by rw [hedit]; rfl), hedit, hrequest]
      exact .inr (.inr ⟨name, rfl, hlacking, rfl⟩)

/-! ## Batches over whole offsets -/

theorem decide_whole_lt (a b : Nat) :
    decide (Offset.whole a < Offset.whole b) = decide (a < b) :=
  decide_eq_decide.mpr (whole_lt_whole.trans Int.ofNat_lt)

theorem laterEq_ofEdit (a b : Edit) :
    (Request.ofEdit a).span.laterEq (Request.ofEdit b).span = a.span.laterEq b.span := by
  unfold Span.laterEq
  congr 1
  · exact decide_whole_lt b.start a.start
  · congr 2
    · exact decide_whole_lt a.start b.start
    · exact decide_whole_lt a.stop b.stop

theorem takeFitting_map (size : Nat) (last : Option Nat) (es : List Edit) :
    takeFitting Request.span (.whole size) (last.map fun start : Nat => .whole start)
        (es.map .ofEdit) =
      (takeFitting Edit.span size last es).map .ofEdit := by
  induction es generalizing last with
  | nil => rfl
  | cons e es ih =>
    have hpast : decide (Offset.whole size < (Request.ofEdit e).span.stop) =
        decide (size < e.span.stop) := decide_whole_lt size e.stop
    have hover : ((last.map fun start : Nat => Offset.whole start).any
          (decide <| · < (Request.ofEdit e).span.stop)) =
        last.any (decide <| · < e.span.stop) := by
      cases last with
      | none => rfl
      | some start => exact decide_whole_lt start e.stop
    simp only [List.map_cons, takeFitting, hpast, hover]
    split
    · exact ih last
    · rw [List.map_cons, ← ih (some e.span.start)]
      rfl

theorem chosenFrom_map (size : Nat) (es : List Edit) :
    chosenFrom Request.span (.whole size) (es.map .ofEdit) =
      (chosenFrom Edit.span size es).map .ofEdit := by
  have hsorted : stableSort (fun a b : Request => a.span.laterEq b.span) (es.map .ofEdit) =
      (stableSort (fun a b : Edit => a.span.laterEq b.span) es).map .ofEdit := by
    rw [← map_stableSort Request.ofEdit es]
    simp only [laterEq_ofEdit]
  rw [chosenFrom, chosenFrom, hsorted]
  exact takeFitting_map size none _

theorem foldlM_apply_map (content : Bytes) (es : List Edit) :
    (es.map Request.ofEdit).foldlM (fun content r => r.apply content) content =
      .ok (splice content es) := by
  induction es generalizing content with
  | nil => rfl
  | cons e es ih =>
    rw [List.map_cons, List.foldlM_cons]
    exact ih (e.apply content)

theorem applyRequests_map (content : Bytes) (es : List Edit) :
    applyRequests content (es.map .ofEdit) = .ok (applyBatch content es) := by
  unfold applyRequests
  simp only [chosenFrom_map, foldlM_apply_map, List.length_map]
  rfl

end TruncIdiom.Workspace
