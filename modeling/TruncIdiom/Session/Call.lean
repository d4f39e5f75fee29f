import TruncIdiom.Session.Repair
import TruncIdiom.Session.Setup

/-!
The calls of a session.

A client makes eight calls. Between calls files may also be changed from outside; `Event` is either.
A run of events goes through the sessions one after the other.
-/

namespace TruncIdiom.Session

open Text Syntax Rule Json Workspace

inductive Call where
  | setWorkspace (path : String)
  | configure (severity maxFixPasses considerGetters : Value)
  | reportFile (path : String)
  | explainRule (id : String)
  | propose (path : String) (line : Int)
  | applyFix (path : String) (line : Int) (acceptSuggestion : Bool)
  | verifyFix (path : String) (line : Int)
  | fixAll (path : String) (dryRun : Bool)
  deriving Repr

def call (s : Session) (parser : Parser) : Call → Outcome
  | .setWorkspace path => s.setWorkspace path
  | .configure severity maxFixPasses considerGetters =>
    s.configure severity maxFixPasses considerGetters
  | .reportFile path => s.reportFile parser path
  | .explainRule id => s.say (explain id)
  | .propose path line => s.propose parser path line
  | .applyFix path line acceptSuggestion => s.applyFix parser path line acceptSuggestion
  | .verifyFix path line => s.verifyFix parser path line
  | .fixAll path dryRun => s.fixAll parser path dryRun

inductive Event where
  | call (call : Call)
  | write (place : Place) (content : Bytes)
  | erase (place : Place)
  deriving Repr

def next (s : Session) (parser : Parser) : Event → Session
  | .call call => (s.call parser call).2
  | .write place content => { s with files := s.files.put place content }
  | .erase place => { s with files := s.files.erase place }

def run (s : Session) (parser : Parser) (events : List Event) : Session :=
  events.foldl (fun s event => s.next parser event) s

/-- A session over files in which nothing has happened yet. -/
def start (files : FileMap) : Session := { files := files }

end TruncIdiom.Session
