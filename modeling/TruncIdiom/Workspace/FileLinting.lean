import TruncIdiom.Lint.Fixing
import TruncIdiom.Workspace.FileMap

/-!
Linting and fixing files.

A file that is missing or no source has nothing to report and nothing to fix. Fixing writes the
text of the fixed source, and only when it differs from what was there and the run is not dry.
-/

namespace TruncIdiom.Workspace

open Text Lint

def lintFile (linter : Linter) (m : FileMap) (path : String) : LintResult :=
  match m.readSource? path with
  | some source => linter.lint source path
  | none => ⟨path, []⟩

def fixedFile (linter : Linter) (m : FileMap) (path : String) : Except ConfigError FixResult :=
  match m.readSource? path with
  | some source => linter.fix source path
  | none => .ok { path := path, output := "" }

/-- Fixes the file that a path leads to, and writes it unless the run is dry. -/
def fixFile (linter : Linter) (m : FileMap) (path : String) (dryRun : Bool) :
    Except ConfigError (FixResult × FileMap) := do
  let result ← fixedFile linter m path
  if result.fixed && !dryRun then return (result, m.write path (encode result.output))
  else return (result, m)

end TruncIdiom.Workspace
