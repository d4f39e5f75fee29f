import TruncIdiom.Collection.StableSort
import TruncIdiom.Edit.Basic

/-!
Batches of edits: edits of one content that need not agree with each other.

A batch is applied from the end of the content to its front. `chosenFrom` decides which edits take
part: the latest comes first, and of two at one offset the wider; an edit that ends past the content
or past the start of one already taken is left out. It sees spans only, over offsets of any kind
that has an order. `splice` then applies those chosen.
-/

namespace TruncIdiom

open Text

/-- The place of an item that is to replace part of a content. -/
structure Span (β : Type) where
  start : β
  stop : β
  deriving DecidableEq, Repr

/-- Whether a span starts later than another, or there too and ends no earlier. -/
def Span.laterEq {β : Type} [LT β] [DecidableLT β] (a b : Span β) : Bool :=
  decide (b.start < a.start) || (!decide (a.start < b.start) && !decide (a.stop < b.stop))

/-- Those of the items, latest first, that end within the content of `size` bytes and before the
start of the one taken last. -/
def takeFitting {α β : Type} [LT β] [DecidableLT β] (span : α → Span β) (size : β)
    (lastStart : Option β) : List α → List α
  | [] => []
  | x :: xs =>
    let stop := (span x).stop
    if decide (size < stop) || lastStart.any (decide <| · < stop) then
      takeFitting span size lastStart xs
    else x :: takeFitting span size (some (span x).start) xs

/-- The items that take part in a batch, in the order they are applied. -/
def chosenFrom {α β : Type} [LT β] [DecidableLT β] (span : α → Span β) (size : β)
    (items : List α) : List α :=
  takeFitting span size none
    (Collection.stableSort (fun a b => (span a).laterEq (span b)) items)

def Edit.span (e : Edit) : Span Nat := ⟨e.start, e.stop⟩

def splice (content : Bytes) (edits : List Edit) : Bytes :=
  edits.foldl (fun content e => e.apply content) content

/-- The content after a batch, and how many of its edits took part. -/
def applyBatch (content : Bytes) (edits : List Edit) : Bytes × Nat :=
  let chosen := chosenFrom Edit.span content.length edits
  (splice content chosen, chosen.length)

end TruncIdiom
