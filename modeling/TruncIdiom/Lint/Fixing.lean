import TruncIdiom.Edit.Selection
import TruncIdiom.Lint.Linting

/-!
Fixing a source in passes.

A pass lints the source and applies the fixes it finds that do not touch each other. Passes follow
until one finds a fatal message or nothing to apply, or the limit is reached. A pass whose output
the parser rejects is dropped, and is the last one.
-/

namespace TruncIdiom.Lint

open Text Rule

structure Progress where
  current : Bytes
  applied : Nat := 0
  passes : Nat := 0
  deriving DecidableEq, Repr

/-- What a fix pass makes of a source. -/
inductive PassOutcome where
  | nothing
  | broken
  | improved (output : Bytes) (applied : Nat)
  deriving DecidableEq, Repr

namespace Linter

def fixPass (linter : Linter) (source : Bytes) : PassOutcome :=
  let messages := linter.messages source
  if messages.any (·.fatal) then .nothing
  else
    let (output, applied) := applyFixes source (messages.filterMap (·.fix))
    if applied = 0 then .nothing
    else if linter.rejects output then .broken
    else .improved output applied

/-- Up to a limit, fix passes one after the other. -/
def fixPasses (linter : Linter) : Nat → Progress → Progress
  | 0, progress => progress
  | limit + 1, progress =>
    match linter.fixPass progress.current with
    | .nothing => progress
    | .broken => { progress with passes := progress.passes + 1 }
    | .improved output applied =>
      linter.fixPasses limit ⟨output, progress.applied + applied, progress.passes + 1⟩

end Linter

/-- A source after fixing, with the messages that are left. -/
structure FixResult where
  path : String
  output : String
  fixed : Bool := false
  applied : Nat := 0
  passes : Nat := 0
  messages : List Message := []
  deriving Repr

/-- Fixes a source. The limit on passes has to be an integer. -/
def Linter.fix (linter : Linter) (source : Bytes) (path : String) :
    Except ConfigError FixResult := do
  let limit ← linter.config.passLimit
  let done := linter.fixPasses limit ⟨source, 0, 0⟩
  return {
    path := path
    output := decode done.current
    fixed := done.current ≠ source
    applied := done.applied
    passes := done.passes
    messages := linter.messages done.current }

end TruncIdiom.Lint
