import TruncIdiom.Text.Slice
import TruncIdiom.Text.Utf8

/-!
Edits of a source.

An edit puts a text in the place of the bytes from one offset up to another. Its span is in order by
construction; `Edit.make` refuses a span that is not. `SpanEdit` is the record that a lint message
or a client holds: its offsets are promised nothing.
-/

namespace TruncIdiom

open Text

inductive EditError where
  | invalidSpan (start stop : Int)
  | emptyScript
  | overlap (start stop lastStop : Nat)
  | pastEnd (stop size : Nat)
  deriving DecidableEq, Repr

def EditError.message : EditError → String
  | .invalidSpan start stop => "Invalid edit span " ++ toString start ++ "-" ++ toString stop
  | .emptyScript => "An edit script needs at least one edit"
  | .overlap start stop lastStop =>
    "Edit at " ++ toString start ++ "-" ++ toString stop ++
      " overlaps a previous edit ending at " ++ toString lastStop
  | .pastEnd stop size =>
    "Edit script ends at " ++ toString stop ++ ", past the source length " ++ toString size

/-- Puts `text` in the place of the bytes from `start` up to `stop`. -/
structure Edit where
  start : Nat
  stop : Nat
  text : String
  ordered : start ≤ stop := by omega
  deriving DecidableEq, Repr

/-- The edit of a span, which must not be negative or crossed. -/
def Edit.make (start stop : Int) (text : String) : Except EditError Edit :=
  if h : 0 ≤ start ∧ start ≤ stop then
    .ok ⟨start.toNat, stop.toNat, text, by omega⟩
  else .error (.invalidSpan start stop)

def Edit.spanLe (a b : Edit) : Bool :=
  decide (a.start < b.start) || (a.start == b.start && decide (a.stop ≤ b.stop))

def replaceSpan (content : Bytes) (start stop : Nat) (text : String) : Bytes :=
  content.take start ++ encode text ++ content.drop stop

def Edit.apply (e : Edit) (content : Bytes) : Bytes := replaceSpan content e.start e.stop e.text

/-- An edit as it is sent and stored, with no promise about its offsets. -/
structure SpanEdit where
  start : Int
  stop : Int
  text : String
  deriving DecidableEq, Repr

def Edit.record (e : Edit) : SpanEdit := ⟨e.start, e.stop, e.text⟩

def SpanEdit.spanLe (a b : SpanEdit) : Bool :=
  decide (a.start < b.start) || (a.start == b.start && decide (a.stop ≤ b.stop))

/-- The source with a record applied. Its offsets may count from the end, and may cross. -/
def SpanEdit.apply (fix : SpanEdit) (source : Bytes) : Bytes :=
  sliceTo source fix.start ++ encode fix.text ++ sliceFrom source fix.stop

end TruncIdiom
