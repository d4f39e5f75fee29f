import TruncIdiom.Collection.StableSort
import TruncIdiom.Edit.Basic
import TruncIdiom.Text.Quoted

/-!
Scripts of edits: the edits that belong to one fix, applied as a whole or not at all.

A script holds its edits in source order, and no byte is covered by two of them. Spans may touch:
an insertion may stand where a replacement starts, and insertions at one offset keep the order they
were given in. `EditScript.ofEdits` sorts the edits and refuses an overlap. `EditScript.apply` works
from the last edit to the first, so that offsets in front stay good; `replaceAll` is the same result
said at once, the untouched gaps and the texts in turn. `EditScript.merged` is one edit that covers
the whole script.
-/

namespace TruncIdiom

open Text

/-- The first edit that starts before the end of the one in front of it, with that end. -/
def overlapAfter (lastStop : Nat) : List Edit → Option (Edit × Nat)
  | [] => none
  | e :: es => if e.start < lastStop then some (e, lastStop) else overlapAfter e.stop es

def latestStop (edits : List Edit) : Nat := edits.foldl (fun stop e => max stop e.stop) 0

/-- Edits in source order, at least one, of which none overlap. -/
structure EditScript where
  edits : List Edit
  nonempty : edits ≠ []
  disjoint : overlapAfter 0 edits = none
  deriving DecidableEq, Repr

/-- The script of some edits in any order. -/
def EditScript.ofEdits (edits : List Edit) : Except EditError EditScript :=
  let sorted := Collection.stableSort Edit.spanLe edits
  if nonempty : sorted = [] then .error .emptyScript
  else
    match disjoint : overlapAfter 0 sorted with
    | some (e, lastStop) => .error (.overlap e.start e.stop lastStop)
    | none => .ok ⟨sorted, nonempty, disjoint⟩

def EditScript.start (s : EditScript) : Nat := (s.edits.head s.nonempty).start

def EditScript.stop (s : EditScript) : Nat := latestStop s.edits

def EditScript.apply (s : EditScript) (source : Bytes) : Except EditError Bytes :=
  if s.stop > source.length then .error (.pastEnd s.stop source.length)
  else .ok (s.edits.foldr Edit.apply source)

/-- From offset `cursor` on, the source between the edits and the texts of the edits in turn. -/
def replaceAll (source : Bytes) (cursor : Nat) : List Edit → Bytes
  | [] => source.drop cursor
  | e :: es => between source cursor e.start ++ encode e.text ++ replaceAll source e.stop es

/-! ## One edit for the whole script -/

/-- The text that stands for edits from offset `cursor` on, with the source between them. -/
def mergedText (source : Bytes) (cursor : Nat) : List Edit → String
  | [] => ""
  | e :: es => decode (between source cursor e.start) ++ e.text ++ mergedText source e.stop es

theorem le_foldl_max (edits : List Edit) (n : Nat) :
    n ≤ edits.foldl (fun stop e => max stop e.stop) n := by
  induction edits generalizing n with
  | nil => exact Nat.le_refl n
  | cons e es ih => exact Nat.le_trans (Nat.le_max_left n e.stop) (ih _)

theorem EditScript.start_le_stop (s : EditScript) : s.start ≤ s.stop := by
  obtain ⟨edits, nonempty, disjoint⟩ := s
  cases edits with
  | nil => exact absurd rfl nonempty
  | cons e es =>
    calc e.start
      _ ≤ e.stop := e.ordered
      _ ≤ max 0 e.stop := Nat.le_max_right 0 e.stop
      _ ≤ latestStop (e :: es) := le_foldl_max es _

/-- One edit from the start of the script to its end. The source between the edits is part of its
text. -/
def EditScript.merged (s : EditScript) (source : Bytes) : Edit :=
  ⟨s.start, s.stop, mergedText source s.start s.edits, s.start_le_stop⟩

/-! ## The script in words -/

def Edit.shown (e : Edit) : String :=
  "Edit(start_byte=" ++ toString e.start ++ ", end_byte=" ++ toString e.stop ++ ", text=" ++
    quoted e.text ++ ")"

def EditScript.shown (s : EditScript) : String :=
  "EditScript([" ++ ", ".intercalate (s.edits.map Edit.shown) ++ "])"

end TruncIdiom
