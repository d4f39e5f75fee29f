import TruncIdiom.Session.Basic
import TruncIdiom.Session.ConfigFile

/-!
Setting up a session: the workspace and the configuration.

A workspace is refused as a whole when its root is no folder or its configuration file cannot be
read. Otherwise it is installed first, and only then are its files counted, which takes the
extensions of the new configuration to be texts.
-/

namespace TruncIdiom.Session

open Json Lint Workspace

/-! ## The workspace -/

def countHandled (config : Config) : List String → Except ConfigError Nat
  | [] => .ok 0
  | name :: names => do
    let handled ← config.handles name
    let count ← countHandled config names
    return if handled then count + 1 else count

def countFiles (m : FileMap) (config : Config) (path : String) : Except ConfigError Nat :=
  match m.placeOf? path with
  | some place => countHandled config (m.fileNamesBelow place)
  | none => .ok 0

def settingsText (config : Config) : String :=
  "severity=`" ++ config.severity.label ++ "`, max_fix_passes=" ++ config.maxFixPasses.text ++
    ", consider_getters=" ++ config.considerGetters.text ++ "."

def installedText (m : FileMap) (config : Config) (path : String) (loaded : Bool) : Reply := do
  let count ← countFiles m config path
  let extensions ← extensionTexts 0 config.extensions
  let note := if loaded then "\nLoaded `" ++ configFileName ++ "`: " ++ settingsText config else ""
  return "Workspace set to `" ++ path ++ "`.\nFound " ++ toString count ++
    " JavaScript file(s) (" ++ ", ".intercalate extensions ++ ")." ++ note

/-- The session with a workspace installed. All marks are gone. -/
def install (s : Session) (path : String) (config : Config) : Session :=
  { s with config := config, root := some ⟨path, config.maxLines⟩, marks := [] }

def setWorkspace (s : Session) (path : String) : Outcome :=
  if !s.files.isFolder path then s.say ("Error: Workspace root not found at " ++ path)
  else
    match loadConfig? s.files path with
    | .error e => s.say ("Error: Invalid " ++ configFileName ++ ": " ++ e.message)
    | .ok loaded =>
      let config := loaded.getD s.config
      (installedText s.files config path loaded.isSome, s.install path config)

/-! ## The configuration -/

/-- The settings of a call: the severity, the limit on passes and whether getters count. The others
have their defaults. -/
def settingsOf (severity maxFixPasses considerGetters : Value) : Settings :=
  { severity := severity, maxFixPasses := maxFixPasses, considerGetters := considerGetters }

def reconfigure (s : Session) (config : Config) : Session :=
  { s with
    config := config
    root := s.root.map fun root => { root with maxLines := config.maxLines } }

/-- Sets the configuration. Values that are refused are replied to; values of a wrong kind fail the
call. -/
def configure (s : Session) (severity maxFixPasses considerGetters : Value) : Outcome :=
  match Config.make (settingsOf severity maxFixPasses considerGetters) with
  | .ok config => (s.reconfigure config).say ("Configuration updated: " ++ settingsText config)
  | .error e => if e.isKindError then (.error e, s) else s.say ("Error: " ++ e.message)

end TruncIdiom.Session
