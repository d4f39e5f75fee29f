import TruncIdiom.Lint.Config
import TruncIdiom.Rule.Catalogue
import TruncIdiom.Rule.Diagnostic
import TruncIdiom.Text.Position

/-!
Messages: diagnostics as they are shown and sent.

A message no longer needs the tree. Its text is rendered, its places are lines and columns, and each
script of edits is merged into one record.
-/

namespace TruncIdiom.Rule

open Text Syntax Lint

structure Proposal where
  messageId : String
  description : String
  fix : SpanEdit
  deriving DecidableEq, Repr

/-- A message of a lint. A fatal one says that the source could not be read. -/
structure Message where
  ruleId : Option String := none
  level : Level := .error
  text : String
  messageId : Option String := none
  position : Position
  endPosition : Position
  start : Nat := 0
  stop : Nat := 0
  fix : Option SpanEdit := none
  suggestions : List Proposal := []
  fatal : Bool := false
  deriving DecidableEq, Repr

def Message.remedyKind (m : Message) : RemedyKind :=
  if m.fix.isSome then .fix
  else if m.suggestions.isEmpty then .none
  else .suggestion

/-- Whether a message stands before another in a report, or at the same place. -/
def Message.placeLe (a b : Message) : Bool := a.position.le b.position

/-! ## From diagnostics -/

/-- The record of a script: its edits merged into one. -/
def mergedRecord (script : EditScript) (source : Bytes) : SpanEdit := (script.merged source).record

def Suggestion.proposal (s : Suggestion) (info : RuleInfo) (source : Bytes) : Proposal :=
  ⟨s.messageId, render (info.template s.messageId) s.data, mergedRecord s.fix source⟩

def Diagnostic.message (d : Diagnostic) (info : RuleInfo) (source : Bytes) (level : Level) :
    Message where
  ruleId := some info.id
  level := level
  text := render (info.template d.messageId) d.data
  messageId := some d.messageId
  position := .ofOffset source d.node.start
  endPosition := .ofOffset source d.node.stop
  start := d.node.start
  stop := d.node.stop
  fix :=
    match d.remedy with
    | .fix script => some (mergedRecord script source)
    | _ => none
  suggestions :=
    match d.remedy with
    | .suggestions first rest => (first :: rest).map (·.proposal info source)
    | _ => []

/-! ## Sources that are not well formed -/

/-- The most bytes of an unexpected token that a message shows. -/
def snippetSize : Nat := 40

def faultDetail (node : NodeInfo) (source : Bytes) : String :=
  if node.missing then "Missing `" ++ node.kind ++ "`"
  else
    match (between source node.start node.stop).take snippetSize with
    | [] => "Unexpected token"
    | snippet => "Unexpected token `" ++ decode snippet ++ "`"

/-- The fatal message for a source whose tree has an error at a node. -/
def faultMessage (node : NodeInfo) (source : Bytes) : Message where
  text := "Parsing error: " ++ faultDetail node source
  position := .ofOffset source node.start
  endPosition := .ofOffset source node.start
  start := node.start
  stop := node.start
  fatal := true

/-! ## Accepting a suggestion -/

structure NoSuggestion where
  count : Nat
  index : Int
  deriving DecidableEq, Repr

def NoSuggestion.message (e : NoSuggestion) : String :=
  "Message has " ++ toString e.count ++ " suggestion(s); index " ++ toString e.index ++
    " is out of range"

/-- The text of the source with one suggestion of a message applied. -/
def Message.accept (m : Message) (source : Bytes) (index : Int) : Except NoSuggestion String :=
  match (if 0 ≤ index then m.suggestions[index.toNat]? else none) with
  | some proposal => .ok (decode (proposal.fix.apply source))
  | none => .error ⟨m.suggestions.length, index⟩

end TruncIdiom.Rule
