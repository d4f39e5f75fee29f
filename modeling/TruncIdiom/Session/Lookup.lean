import TruncIdiom.Collection.StableSort
import TruncIdiom.Session.Basic
import TruncIdiom.Workspace.FileLinting

/-!
Finding the diagnostic for a line.

A client names a line. The diagnostic meant is the one whose line is nearest, the first of several;
where its line is another one, a hint says so.
-/

namespace TruncIdiom.Session

open Syntax Rule Lint Workspace

/-- A diagnostic that was found, with a hint when it stands on another line. -/
structure Found where
  message : Message
  hint : Option String := none
  deriving DecidableEq, Repr

def lineDistance (line : Int) (m : Message) : Nat := (m.position.line - line).natAbs

/-- The first of the messages whose line is nearest to a line. -/
def nearest? (line : Int) : List Message → Option Message
  | [] => none
  | m :: ms =>
    match nearest? line ms with
    | some n => if lineDistance line m ≤ lineDistance line n then some m else some n
    | none => some m

def hintedLines : Nat := 10

/-- The lines of messages in order, each once, as a hint names them. -/
def linesText (messages : List Message) : String :=
  let lines := messages.map (·.position.line)
  let sorted := (Collection.stableSort (fun a b => decide (a ≤ b)) lines).eraseDups
  ", ".intercalate ((sorted.take hintedLines).map toString)

def nearestHint (path : String) (line : Int) (messages : List Message) (m : Message) : String :=
  "No diagnostic at line " ++ toString line ++ " in `" ++ withSlashes path ++ "`, but found " ++
    toString messages.length ++ " at line(s): " ++ linesText messages ++
    ".\n**Closest match:** line " ++ toString m.position.line ++ " — using that instead."

/-- The diagnostic for a line among the messages for a file, or why there is none. -/
def findAmong (path : String) (line : Int) (messages : List Message) : Except String Found :=
  match messages.find? (·.fatal) with
  | some fatal =>
    .error ("`" ++ withSlashes path ++ "` does not parse: " ++ fatal.text ++ " (line " ++
      toString fatal.position.line ++ ").")
  | none =>
    match nearest? line messages with
    | some m =>
      if (m.position.line : Int) = line then .ok ⟨m, none⟩
      else .ok ⟨m, some (nearestHint path line messages m)⟩
    | none => .error ("No diagnostics found in `" ++ withSlashes path ++ "`.")

def find (s : Session) (parser : Parser) (root : Root) (path : String) (line : Int) :
    Except String Found :=
  findAmong path line (lintFile (s.linter parser) s.files (root.resolve path)).messages

def Found.note (found : Found) : String :=
  match found.hint with
  | some hint => "> **Note:** " ++ hint ++ "\n\n"
  | none => ""

/-! ## What can be done about it -/

/-- The record to apply for a message: its fix, or its first suggestion if one is accepted. -/
def chosenRecord? (m : Message) (acceptSuggestion : Bool) : Option SpanEdit :=
  match m.fix with
  | some fix => some fix
  | none => if acceptSuggestion then m.suggestions.head?.map (·.fix) else none

/-- The edit to apply for a message. The record of a message is never crossed. -/
def chosenEdit? (m : Message) (acceptSuggestion : Bool) : Option Edit :=
  (chosenRecord? m acceptSuggestion).bind fun r => (Edit.make r.start r.stop r.text).toOption

end TruncIdiom.Session
