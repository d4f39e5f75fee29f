/-!
Sets of characters as runs of code points.

A property of characters that a standard tabulates is kept as a list of runs: every `step`-th code
point from `first` to `last`. Steps of two stand for scripts that alternate capital and small
letters.
-/

namespace TruncIdiom.Text

/-- Every `step`-th code point from `first` to `last`. -/
structure CharRun where
  first : Nat
  last : Nat
  step : Nat := 1
  deriving DecidableEq, Repr

def CharRun.holds (run : CharRun) (c : Char) : Bool :=
  run.first ≤ c.toNat && c.toNat ≤ run.last && (c.toNat - run.first) % run.step == 0

def inRuns (runs : List CharRun) (c : Char) : Bool := runs.any (·.holds c)

end TruncIdiom.Text
