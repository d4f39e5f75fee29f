/-!
Patterns over characters.

A pattern is a row of stretches, each of which takes characters of one class from the front of what
is left of a text. A stretch that may take more or fewer tries its counts one after the other: when
the rest of the pattern does not match behind one of them, the next is tried. `Pattern.match?` gives
what the stretches take the first time that all of them match.
-/

namespace TruncIdiom.Text

/-- How many characters a stretch takes: a single one, any number with the most tried first, or at
least one with the fewest tried first. -/
inductive Amount where
  | one
  | most
  | fewest
  deriving DecidableEq, Repr

/-- A part of a pattern, with the class of characters that it takes. -/
structure Stretch where
  amount : Amount
  accepts : Char → Bool

abbrev Pattern := List Stretch

/-- The numbers of characters that a stretch may take from the front of a text, in the order they
are tried. -/
def Stretch.counts (s : Stretch) (text : List Char) : List Nat :=
  let run := (text.takeWhile s.accepts).length
  match s.amount with
  | .one => if run = 0 then [] else [1]
  | .most => (List.range (run + 1)).reverse
  | .fewest => (List.range run).map (· + 1)

/-- What each stretch of a pattern takes from the front of a text, if they all match. -/
def Pattern.match? : Pattern → List Char → Option (List (List Char))
  | [], _ => some []
  | s :: pattern, text =>
    (s.counts text).findSome? fun n => (match? pattern (text.drop n)).map (text.take n :: ·)

end TruncIdiom.Text
