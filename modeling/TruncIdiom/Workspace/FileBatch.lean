import TruncIdiom.Edit.Batch
import TruncIdiom.Json.Value
import TruncIdiom.Workspace.FileMap

/-!
Batches of edits for several files.

A client sends the edits of each file, ready made or as objects. The files are taken in turn. A file
that is missing, or has an edit whose span is not in order, counts no edits and stays as it is. A
fault in the form of an object ends the run; files that came before it stay written. The text of an
edit is looked at only when the edit takes part.
-/

namespace TruncIdiom.Workspace

open Text Json Collection Decimal

/-! ## Requests -/

inductive BatchError where
  | invalidSpan (start stop : String)
  | missingField (name : String)
  | offsetNotOrdered (kind other : Kind)
  | offsetNotInteger
  | textNotText (kind : Kind)
  deriving DecidableEq, Repr

def BatchError.message : BatchError → String
  | .invalidSpan start stop => "Invalid edit span " ++ start ++ "-" ++ stop
  | .missingField name => "'" ++ name ++ "'"
  | .offsetNotOrdered kind other =>
    "'<' not supported between instances of '" ++ kind.label ++ "' and '" ++ other.label ++ "'"
  | .offsetNotInteger => "slice indices must be integers or None or have an __index__ method"
  | .textNotText kind => "'" ++ kind.label ++ "' object has no attribute 'encode'"

/-- Whether a fault only makes its file be passed over. -/
def BatchError.isPassedOver : BatchError → Bool
  | .invalidSpan .. => true
  | _ => false

/-- An offset as it is sent. Only a whole one can be applied, but all can be compared. -/
inductive Offset where
  | whole (n : Int)
  | broken (x : Binary64)
  deriving DecidableEq, Repr

namespace Offset

def shape : Offset → Shape
  | whole n => .ofInt n
  | broken x => x.shape

instance : LT Offset := ⟨fun a b => a.shape.below b.shape = true⟩

instance : DecidableLT Offset := fun a b =>
  inferInstanceAs (Decidable (a.shape.below b.shape = true))

end Offset

/-- An edit of a batch. Its span is in order, its text may be any value. -/
structure Request where
  span : Span Offset
  text : Value
  deriving Repr

inductive SentEdit where
  | ready (request : Request)
  | object (fields : List (String × Value))
  deriving Repr

/-- The offset that a value is. A truth value counts as one or zero. -/
def offsetOf (value : Value) (other : Kind) : Except BatchError Offset :=
  match value with
  | .int n => .ok (.whole n)
  | .bool b => .ok (.whole (if b then 1 else 0))
  | .float x => .ok (.broken x)
  | _ => .error (.offsetNotOrdered value.kind other)

/-- The request of three values. The first offset is compared with zero, and the second with the
first unless that is negative. -/
def Request.make (start stop text : Value) : Except BatchError Request := do
  let first ← offsetOf start .int
  if first < .whole 0 then throw (.invalidSpan start.text stop.text)
  let last ← offsetOf stop start.kind
  if last < first then throw (.invalidSpan start.text stop.text)
  return ⟨⟨first, last⟩, text⟩

def sentField (fields : List (String × Value)) (name : String) : Except BatchError Value :=
  match Entries.get? fields name with
  | some value => .ok value
  | none => .error (.missingField name)

def SentEdit.request : SentEdit → Except BatchError Request
  | .ready request => .ok request
  | .object fields => do
    let start ← sentField fields "start_byte"
    let stop ← sentField fields "end_byte"
    let text ← sentField fields "text"
    Request.make start stop text

/-! ## One file -/

/-- The content with a request applied. The text is looked at before the offsets. -/
def Request.apply (r : Request) (content : Bytes) : Except BatchError Bytes :=
  match r.text, r.span.start, r.span.stop with
  | .string text, .whole start, .whole stop =>
    .ok (replaceSpan content start.toNat stop.toNat text)
  | .string _, _, _ => .error .offsetNotInteger
  | value, _, _ => .error (.textNotText value.kind)

/-- The content after a batch of requests, and how many of them took part. -/
def applyRequests (content : Bytes) (requests : List Request) :
    Except BatchError (Bytes × Nat) := do
  let chosen := chosenFrom Request.span (.whole content.length) requests
  let output ← chosen.foldlM (fun content r => r.apply content) content
  return (output, chosen.length)

/-- Applies the edits of one file. The edits are read first; a file that is missing counts none. -/
def applyToFile (m : FileMap) (path : String) (edits : List SentEdit) (dryRun : Bool) :
    Except BatchError (Nat × FileMap) := do
  let requests ← edits.mapM SentEdit.request
  match m.read? path with
  | none => return (0, m)
  | some content =>
    let (output, applied) ← applyRequests content requests
    return (applied, if dryRun then m else m.write path output)

/-! ## All files -/

abbrev Summary := Entries String Nat

/-- Applies the edits of each file in turn. Files without edits are not counted. -/
def applyByFile (m : FileMap) (dryRun : Bool) :
    List (String × List SentEdit) → FileMap × Except BatchError Summary
  | [] => (m, .ok [])
  | (_, []) :: rest => applyByFile m dryRun rest
  | (path, edits) :: rest =>
    match applyToFile m path edits dryRun with
    | .ok (applied, m) =>
      let (m, summary) := applyByFile m dryRun rest
      (m, summary.map ((path, applied) :: ·))
    | .error e =>
      if e.isPassedOver then
        let (m, summary) := applyByFile m dryRun rest
        (m, summary.map ((path, 0) :: ·))
      else (m, .error e)

end TruncIdiom.Workspace
