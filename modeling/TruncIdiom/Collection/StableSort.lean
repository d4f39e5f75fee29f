/-!
Stable sorting by insertion.

`stableSort le` puts a list in the order `le` and leaves elements that are equal in it as they
stood. A list that is in order already is gone through once.
-/

namespace TruncIdiom.Collection

def insertSorted {α : Type} (le : α → α → Bool) (x : α) : List α → List α
  | [] => [x]
  | y :: ys => if le x y then x :: y :: ys else y :: insertSorted le x ys

/-- The list in order, equal elements as they stood. -/
def stableSort {α : Type} (le : α → α → Bool) (xs : List α) : List α :=
  xs.foldr (insertSorted le) []

end TruncIdiom.Collection
