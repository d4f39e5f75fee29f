import TruncIdiom.Collection.Entries
import TruncIdiom.Rule.Message
import TruncIdiom.Workspace.Path

/-!
What became of a diagnostic.

A session marks diagnostics by the path of their file, their line and their message id. The path of
a key is written with slashes only, so it does not matter how a client writes it. A diagnostic
without a mark is pending.
-/

namespace TruncIdiom.Session

open Rule Collection Workspace

inductive Mark where
  | fixed
  | verified
  | failed
  deriving DecidableEq, Repr

def Mark.label : Mark → String
  | .fixed => "fixed"
  | .verified => "verified"
  | .failed => "failed"

structure MarkKey where
  path : String
  line : Nat
  messageId : Option String
  deriving DecidableEq, Repr

def MarkKey.of (path : String) (m : Message) : MarkKey :=
  ⟨withSlashes path, m.position.line, m.messageId⟩

abbrev Marks := Entries MarkKey Mark

namespace Marks

def statusOf (marks : Marks) (path : String) (m : Message) : String :=
  match Entries.get? marks (MarkKey.of path m) with
  | some mark => mark.label
  | none => "pending"

def putFixed (marks : Marks) (path : String) (m : Message) : Marks :=
  Entries.put marks (MarkKey.of path m) .fixed

def isAt (path : String) (line : Int) (key : MarkKey) : Bool :=
  key.path = withSlashes path && (key.line : Int) = line

/-- Replaces the marks of a line that say fixed. -/
def settle (marks : Marks) (path : String) (line : Int) (mark : Mark) : Marks :=
  marks.map fun (key, old) =>
    if isAt path line key && old = .fixed then (key, mark) else (key, old)

end Marks

end TruncIdiom.Session
