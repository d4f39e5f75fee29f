import TruncIdiom.Edit.Batch
import TruncIdiom.Session.Culprit
import TruncIdiom.Workspace.Window

/-!
Calls that only report: the diagnostics of a file, and one of them with what can be done about it.
-/

namespace TruncIdiom.Session

open Text Syntax Rule Lint Workspace

/-! ## The diagnostics of a file -/

def statusRow (marks : Marks) (path : String) (m : Message) : String :=
  "| " ++ toString m.position.line ++ " | " ++ toString m.position.column ++ " | " ++
    m.level.label ++ " | " ++ m.text ++ " | " ++ m.remedyKind.label ++ " | " ++
    marks.statusOf path m ++ " |\n"

def diagnosticsTable (marks : Marks) (path : String) (result : LintResult) : String :=
  "## Diagnostics — `" ++ path ++ "`\n\n" ++
    toString result.messages.length ++ " problem(s): " ++
    toString (result.countAt .error) ++ " error(s), " ++
    toString (result.countAt .warning) ++ " warning(s), " ++
    toString result.fixableCount ++ " auto-fixable.\n\n" ++
    "| Line | Col | Severity | Message | Fix | Status |\n" ++
    "|------|-----|----------|---------|-----|--------|\n" ++
    String.join (result.messages.map (statusRow marks path))

def fileNotFound (path : String) : String := "Error: File not found: " ++ path

def lintReport (marks : Marks) (path : String) (result : LintResult) : String :=
  match result.messages with
  | [] => "No diagnostics in `" ++ path ++ "`."
  | m :: _ =>
    if result.fatal then
      "**" ++ path ++ "** — " ++ m.text ++ " at line " ++ toString m.position.line ++
        ", column " ++ toString m.position.column ++ "."
    else diagnosticsTable marks path result

def reportFile (s : Session) (parser : Parser) (path : String) : Outcome :=
  s.withRoot fun root =>
    let full := root.resolve path
    if !s.files.isFile full then s.say (fileNotFound path)
    else s.say (lintReport s.marks path (lintFile (s.linter parser) s.files full))

/-! ## One diagnostic -/

def shownReach : Int := 3

def proposalHeading (m : Message) : String :=
  "### " ++ m.ruleId.getD "" ++ " — line " ++ toString m.position.line ++ "\n**Message**: " ++
    m.text ++ "\n\n"

def offerText (m : Message) (edit : Edit) : String :=
  (match m.fix, m.suggestions with
    | none, suggestion :: _ =>
      "#### Suggestion — " ++ suggestion.description ++
        "\n_Not applied automatically; pass `accept_suggestion=True` to `apply_fix`._\n"
    | _, _ => "#### Fix (Auto-Apply Available)\n") ++
    "- Replace bytes " ++ toString edit.start ++ "–" ++ toString edit.stop ++ " with `" ++
    edit.text ++ "`\n\n"

/-- The line of a diagnostic on screen after an edit of the source, if it is still there. -/
def previewLine? (source : Bytes) (edit : Edit) (line : Nat) : Option String :=
  let lines := screenLines (decode (applyBatch source [edit]).1)
  if line = 0 then none else lines[line - 1]?

def previewText (source : Bytes) (edit : Edit) (line : Nat) : String :=
  match previewLine? source edit line with
  | some shown => "#### Preview\n```js\n" ++ shown ++ "\n```\n"
  | none => ""

/-- The proposal for a diagnostic, once the lines around it are known. -/
def proposal (s : Session) (parser : Parser) (root : Root) (path : String)
    (found : Found) (context : String) : String :=
  let m := found.message
  let opening := found.note ++ proposalHeading m ++ "#### Context\n```js\n" ++
    withoutNewlines context ++ "\n```\n\n"
  match chosenEdit? m true with
  | none => opening ++ "#### No Fix\n" ++ s.noFixReason parser root path m ++ "\n"
  | some edit =>
    let source := (s.files.readSource? (root.resolve path)).getD []
    opening ++ offerText m edit ++ previewText source edit m.position.line

def propose (s : Session) (parser : Parser) (path : String) (line : Int) : Outcome :=
  s.withRoot fun root =>
    match s.find parser root path line with
    | .error reason => s.say reason
    | .ok found =>
      let context := codeContext s.files root.path root.maxLines path
        found.message.position.line shownReach true
      s.after context fun context => s.say (s.proposal parser root path found context)

end TruncIdiom.Session
