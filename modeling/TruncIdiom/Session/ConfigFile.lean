import TruncIdiom.Json.Reader
import TruncIdiom.Lint.Config
import TruncIdiom.Text.Lines
import TruncIdiom.Workspace.FileMap

/-!
The configuration file of a workspace.

It is a JSON object in UTF-8 that lies in the root. Where it is missing nothing is set. Lines of it
may end in any of the three usual ways, and places in it are counted after that is made uniform.
-/

namespace TruncIdiom.Session

open Text Json Lint Workspace

def configFileName : String := ".trunclintrc.json"

inductive LoadError where
  | encoding (fault : Fault)
  | json (e : ReadError)
  | config (e : ConfigError)
  deriving DecidableEq, Repr

def faultReason : Text.FaultKind → String
  | .start => "invalid start byte"
  | .continuation => "invalid continuation byte"
  | .ending => "unexpected end of data"

def encodingMessage (fault : Fault) : String :=
  let place :=
    if fault.stop = fault.start + 1 then
      "byte 0x" ++ String.ofList (hexDigits 2 fault.lead.toNat) ++ " in position " ++
        toString fault.start
    else
      "bytes in position " ++ toString fault.start ++ "-" ++ toString (fault.stop - 1)
  "'utf-8' codec can't decode " ++ place ++ ": " ++ faultReason fault.kind

def LoadError.message : LoadError → String
  | .encoding fault => encodingMessage fault
  | .json e => e.message
  | .config e => e.message

def configOfContent (content : Bytes) : Except LoadError Config := do
  let text ← (decodeStrict content).mapError .encoding
  let value ← (read (String.ofList (uniformNewlines text.toList))).mapError .json
  (Config.ofValue value).mapError .config

/-- The configuration that lies in a root, if there is one. -/
def loadConfig? (m : FileMap) (root : String) : Except LoadError (Option Config) :=
  match m.read? (joinPath root configFileName) with
  | some content => (configOfContent content).map some
  | none => .ok none

end TruncIdiom.Session
