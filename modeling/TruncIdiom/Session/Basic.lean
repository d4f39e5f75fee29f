import TruncIdiom.Lint.Fixing
import TruncIdiom.Session.Mark
import TruncIdiom.Workspace.FileMap

/-!
Sessions: the state between the calls of a client.

A session has files, a configuration, a workspace once one is set, and the marks of diagnostics. A
call gives a reply and the session after it. Settings that cannot be used are found only when a call
uses them; then the call fails, and the session may have changed by then.
-/

namespace TruncIdiom

open Syntax Lint Json Workspace

namespace Session

/-- The folder that paths of files are taken from, and how many lines of a file are served. -/
structure Root where
  path : String
  maxLines : Value
  deriving Repr

end Session

structure Session where
  files : FileMap
  config : Config := .default
  root : Option Session.Root := none
  marks : Session.Marks := []
  deriving Repr

namespace Session

abbrev Reply := Except ConfigError String

abbrev Outcome := Reply × Session

def linter (s : Session) (parser : Parser) : Linter := ⟨parser, defaultRules, s.config⟩

def Root.resolve (root : Root) (path : String) : String := resolvePath root.path path

def say (s : Session) (reply : String) : Outcome := (.ok reply, s)

def notInitialised : String := "Error: Not initialised. Call set_workspace first."

/-- Makes a call that needs a workspace. -/
def withRoot (s : Session) (call : Root → Outcome) : Outcome :=
  match s.root with
  | some root => call root
  | none => s.say notInitialised

/-- Makes a call after a step that may fail, which then leaves the session as it is. -/
def after {α : Type} (s : Session) (step : Except ConfigError α) (call : α → Outcome) :
    Outcome :=
  match step with
  | .ok a => call a
  | .error e => (.error e, s)

end Session

end TruncIdiom
