import TruncIdiom.Json.Value
import TruncIdiom.Text.Case

/-!
The settings of a linter.

Settings come as loosely typed values, by keyword or as a JSON object whose keys may be spelled in
snake_case or camelCase. `Config.make` checks the severity first, then the limit on fix passes, then
the list of extensions; the other values are kept as they came and are judged where they are used.
-/

namespace TruncIdiom.Lint

open Text Json

/-! ## Severities -/

inductive Severity where
  | off
  | warn
  | warning
  | error
  deriving DecidableEq, Repr

/-- The severities in the order messages list them. -/
def Severity.all : List Severity := [.off, .warn, .warning, .error]

def Severity.label : Severity → String
  | .off => "off"
  | .warn => "warn"
  | .warning => "warning"
  | .error => "error"

def Severity.ofLabel? (s : String) : Option Severity := Severity.all.find? (·.label = s)

inductive Level where
  | off
  | warning
  | error
  deriving DecidableEq, Repr

def Level.label : Level → String
  | .off => "off"
  | .warning => "warning"
  | .error => "error"

def Severity.level : Severity → Level
  | .off => .off
  | .warn => .warning
  | .warning => .warning
  | .error => .error

/-! ## Errors -/

/-- Why settings are refused, or cannot be used. -/
inductive ConfigError where
  | notObject
  | unknownKey (key : String)
  | unknownSeverity (shown : String)
  | unhashableSeverity (kind : Kind)
  | tooFewPasses
  | passesNotOrdered (kind : Kind)
  | passesNotInteger (kind : Kind)
  | extensionsNotIterable (kind : Kind)
  | suffixNotText (kind : Kind)
  | extensionNotText (index : Nat) (kind : Kind)
  | linesNotOrdered (kind : Kind)
  | linesNotInteger
  deriving DecidableEq, Repr

/-- Whether an error is about the kind of a value, and not about the value. -/
def ConfigError.isKindError : ConfigError → Bool
  | .notObject | .unknownKey _ | .unknownSeverity _ | .tooFewPasses => false
  | _ => true

def ConfigError.message : ConfigError → String
  | .notObject => "Config must be a JSON object"
  | .unknownKey key => "Unknown config key '" ++ key ++ "'"
  | .unknownSeverity shown =>
    "Invalid severity '" ++ shown ++ "'. Expected one of: " ++
      ", ".intercalate (Severity.all.map Severity.label)
  | .unhashableSeverity kind => "unhashable type: '" ++ kind.label ++ "'"
  | .tooFewPasses => "max_fix_passes must be at least 1"
  | .passesNotOrdered kind =>
    "'<' not supported between instances of '" ++ kind.label ++ "' and 'int'"
  | .passesNotInteger kind => "'" ++ kind.label ++ "' object cannot be interpreted as an integer"
  | .extensionsNotIterable kind => "'" ++ kind.label ++ "' object is not iterable"
  | .suffixNotText kind => "tuple for endswith must only contain str, not " ++ kind.label
  | .extensionNotText index kind =>
    "sequence item " ++ toString index ++ ": expected str instance, " ++ kind.label ++ " found"
  | .linesNotOrdered kind =>
    "'>' not supported between instances of 'int' and '" ++ kind.label ++ "'"
  | .linesNotInteger =>
    "slice indices must be integers or None or have an __index__ method"

/-! ## Settings -/

/-- Settings as they are given, each with its default. -/
structure Settings where
  severity : Value := .string "error"
  maxFixPasses : Value := .int 10
  considerGetters : Value := .bool false
  extensions : Value := .array [.string ".js", .string ".mjs", .string ".cjs", .string ".jsx"]
  maxLines : Value := .int 100000
  deriving Repr

/-- Settings that a linter can run with. -/
structure Config where
  severity : Severity
  maxFixPasses : Value
  considerGetters : Value
  extensions : List Value
  maxLines : Value
  deriving Repr

def severityOf (value : Value) : Except ConfigError Severity :=
  match value with
  | .array _ | .object _ => .error (.unhashableSeverity value.kind)
  | .string s =>
    match Severity.ofLabel? s with
    | some severity => .ok severity
    | none => .error (.unknownSeverity s)
  | _ => .error (.unknownSeverity value.text)

/-- Checks a limit on passes: it is a number, and at least one. -/
def checkPasses (value : Value) : Except ConfigError Unit :=
  let atLeastOne (low : Bool) := if low then .error .tooFewPasses else .ok ()
  match value with
  | .int n => atLeastOne (n < 1)
  | .bool b => atLeastOne !b
  | .float x => atLeastOne (x.below 1)
  | _ => .error (.passesNotOrdered value.kind)

/-- The extensions that a value lists: its items, its characters or its keys. -/
def extensionsOf (value : Value) : Except ConfigError (List Value) :=
  match value with
  | .array items => .ok items
  | .string s => .ok (s.toList.map fun c => .string (String.ofList [c]))
  | .object fields => .ok (fields.map fun f => .string f.1)
  | _ => .error (.extensionsNotIterable value.kind)

def Config.make (settings : Settings) : Except ConfigError Config := do
  let severity ← severityOf settings.severity
  checkPasses settings.maxFixPasses
  let extensions ← extensionsOf settings.extensions
  return ⟨severity, settings.maxFixPasses, settings.considerGetters, extensions, settings.maxLines⟩

def Config.default : Config where
  severity := .error
  maxFixPasses := .int 10
  considerGetters := .bool false
  extensions := [.string ".js", .string ".mjs", .string ".cjs", .string ".jsx"]
  maxLines := .int 100000

/-! ## Settings by key -/

/-- Puts an underscore in front of each capital from A to Z but the first character. -/
def underscoreCapitals : List Char → List Char
  | [] => []
  | c :: rest =>
    c :: rest.flatMap fun d => if 'A' ≤ d ∧ d ≤ 'Z' then ['_', d] else [d]

def snakeCase (key : String) : String := lower (String.ofList (underscoreCapitals key.toList))

def Settings.set? (settings : Settings) (name : String) (value : Value) : Option Settings :=
  if name = "severity" then some { settings with severity := value }
  else if name = "max_fix_passes" then some { settings with maxFixPasses := value }
  else if name = "consider_getters" then some { settings with considerGetters := value }
  else if name = "extensions" then some { settings with extensions := value }
  else if name = "max_lines" then some { settings with maxLines := value }
  else none

/-- The settings that fields give one after the other: a later one stands. The first key that
names no setting is refused. -/
def Settings.ofFields (settings : Settings) :
    List (String × Value) → Except ConfigError Settings
  | [] => .ok settings
  | (key, value) :: fields =>
    match settings.set? (snakeCase key) value with
    | some settings => settings.ofFields fields
    | none => .error (.unknownKey key)

def Config.ofValue (value : Value) : Except ConfigError Config :=
  match value with
  | .object fields => do Config.make (← ({} : Settings).ofFields fields)
  | _ => .error .notObject

/-! ## What a configuration says -/

def Config.enabled (config : Config) : Bool := config.severity ≠ .off

def Config.level (config : Config) : Level := config.severity.level

/-- Whether reading a property counts as a side effect. -/
def Config.gettersCount (config : Config) : Bool := config.considerGetters.truthy

def Config.passLimit (config : Config) : Except ConfigError Nat :=
  match config.maxFixPasses with
  | .int n => .ok n.toNat
  | .bool b => .ok (if b then 1 else 0)
  | value => .error (.passesNotInteger value.kind)

/-- Whether a text ends with one of the extensions, tried in their order. -/
def endsWithAny (chars : List Char) : List Value → Except ConfigError Bool
  | [] => .ok false
  | .string extension :: extensions =>
    if extension.toList.isSuffixOf chars then .ok true else endsWithAny chars extensions
  | value :: _ => .error (.suffixNotText value.kind)

/-- Whether a file belongs to the linter, by its name in small letters. -/
def Config.handles (config : Config) (path : String) : Except ConfigError Bool :=
  endsWithAny (lower path).toList config.extensions

def extensionTexts (index : Nat) : List Value → Except ConfigError (List String)
  | [] => .ok []
  | .string extension :: extensions => do
    let rest ← extensionTexts (index + 1) extensions
    return extension :: rest
  | value :: _ => .error (.extensionNotText index value.kind)

end TruncIdiom.Lint
