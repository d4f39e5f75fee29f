import TruncIdiom.Collection.StableSort
import TruncIdiom.Edit.Basic

/-!
The fixes that one pass applies.

`selectFixes` goes through the fixes in source order and takes each that starts after the end of the
one taken last; a fix that touches it waits for a later pass. `spliceFixes` writes the source with
the fixes taken in their places. A record with a crossed span is never taken, so the offsets of
those taken are in order and none is negative.
-/

namespace TruncIdiom

open Text

/-- Those of the fixes, in source order, that start after `lastStop` and after each other. -/
def takeSeparate (lastStop : Int) : List SpanEdit → List SpanEdit
  | [] => []
  | fix :: fixes =>
    if fix.start ≤ lastStop ∨ fix.stop < fix.start then takeSeparate lastStop fixes
    else fix :: takeSeparate fix.stop fixes

/-- The fixes that a pass applies, in source order. -/
def selectFixes (fixes : List SpanEdit) : List SpanEdit :=
  takeSeparate (-1) (Collection.stableSort SpanEdit.spanLe fixes)

/-- The source from offset `cursor` on, with the fixes in their places. -/
def spliceFixes (source : Bytes) (cursor : Nat) : List SpanEdit → Bytes
  | [] => source.drop cursor
  | fix :: fixes =>
    between source cursor fix.start.toNat ++ encode fix.text ++
      spliceFixes source fix.stop.toNat fixes

/-- The source after a pass over the fixes, and how many were applied. -/
def applyFixes (source : Bytes) (fixes : List SpanEdit) : Bytes × Nat :=
  let selected := selectFixes fixes
  (spliceFixes source 0 selected, selected.length)

end TruncIdiom
