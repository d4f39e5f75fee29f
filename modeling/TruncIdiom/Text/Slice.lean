/-!
Parts of a list between two bounds.

`between` takes offsets from the front, as spans of a source are. `slice` takes bounds that may be
negative, which then count from the end; a bound past either end stands for that end, and crossed
bounds give nothing.
-/

namespace TruncIdiom.Text

def between {α : Type} (xs : List α) (start stop : Nat) : List α := (xs.take stop).drop start

/-- The offset that a bound stands for in a list of `size` elements. -/
def boundOffset (size : Nat) (bound : Int) : Nat :=
  if bound < 0 then (size + bound).toNat else min size bound.toNat

def slice {α : Type} (xs : List α) (start stop : Int) : List α :=
  between xs (boundOffset xs.length start) (boundOffset xs.length stop)

def sliceTo {α : Type} (xs : List α) (stop : Int) : List α := xs.take (boundOffset xs.length stop)

def sliceFrom {α : Type} (xs : List α) (start : Int) : List α :=
  xs.drop (boundOffset xs.length start)

end TruncIdiom.Text
