import TruncIdiom.Edit.Script
import TruncIdiom.Rule.Template
import TruncIdiom.Syntax.Tree

/-!
What a check finds.

A diagnostic points at a node and names a message. Its remedy is a fix that may be applied as it is,
or suggestions that someone has to accept, or nothing; a remedy is never both.
-/

namespace TruncIdiom.Rule

open Syntax

/-- A change that someone may accept. -/
structure Suggestion where
  messageId : String
  fix : EditScript
  data : Data := []
  deriving Repr

inductive Remedy where
  | none
  | fix (script : EditScript)
  | suggestions (first : Suggestion) (rest : List Suggestion)
  deriving Repr

inductive RemedyKind where
  | none
  | fix
  | suggestion
  deriving DecidableEq, Repr

def RemedyKind.label : RemedyKind → String
  | .none => "none"
  | .fix => "fix"
  | .suggestion => "suggestion"

def Remedy.kind : Remedy → RemedyKind
  | .none => .none
  | .fix _ => .fix
  | .suggestions .. => .suggestion

inductive DiagnosticError where
  | bothRemedies (messageId : String)
  deriving DecidableEq, Repr

def DiagnosticError.message : DiagnosticError → String
  | .bothRemedies messageId =>
    "Diagnostic '" ++ messageId ++ "' has both a fix and suggestions"

/-- The remedy of a fix and suggestions, of which one kind at most may be given. -/
def Remedy.make (messageId : String) (fix : Option EditScript) (suggestions : List Suggestion) :
    Except DiagnosticError Remedy :=
  match fix, suggestions with
  | .none, [] => .ok .none
  | .some script, [] => .ok (.fix script)
  | .none, first :: rest => .ok (.suggestions first rest)
  | .some _, _ :: _ => .error (.bothRemedies messageId)

structure Diagnostic where
  node : NodeInfo
  messageId : String
  data : Data := []
  remedy : Remedy := .none
  deriving Repr

/-- The diagnostic for a node. A script becomes a suggestion when an id for one is given, and a fix
otherwise. -/
def Diagnostic.report (node : NodeInfo) (messageId : String) (data : Data)
    (script : Option EditScript) (suggestionId : Option String) : Diagnostic :=
  let remedy : Remedy :=
    match script, suggestionId.filter (· ≠ "") with
    | .some script, .some id => .suggestions ⟨id, script, data⟩ []
    | .some script, .none => .fix script
    | .none, _ => .none
  ⟨node, messageId, data, remedy⟩

end TruncIdiom.Rule
