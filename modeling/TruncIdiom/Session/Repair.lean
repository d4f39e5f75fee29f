import TruncIdiom.Session.Report

/-!
Calls that change files or marks: applying one fix, confirming it, and fixing a whole file.
-/

namespace TruncIdiom.Session

open Text Syntax Rule Lint Workspace

/-! ## One fix -/

inductive Rejection where
  | skipped
  | broken
  deriving DecidableEq, Repr

def Rejection.message : Rejection → String
  | .skipped => "Error: The edit was skipped (out of bounds or overlapping)."
  | .broken =>
    "Error: Fix produced invalid JavaScript (parse errors detected). The file was not modified."

/-- The content after an edit, which must take part and leave the content well formed. -/
def editedContent (parser : Parser) (content : Bytes) (edit : Edit) : Except Rejection Bytes :=
  let (output, applied) := applyBatch content [edit]
  if applied = 0 then .error .skipped
  else if (parser output).firstFault?.isSome then .error .broken
  else .ok output

def appliedText (path : String) (found : Found) (edit : Edit) : String :=
  let kind := if found.message.fix.isNone then "suggestion" else "fix"
  found.note ++ "Successfully applied the " ++ kind ++ " for line " ++
    toString found.message.position.line ++ " in `" ++ path ++ "`: `" ++ edit.text ++
    "`.\n\n**Status:** marked as `fixed`. " ++
    "Run `verify_fix` to confirm the diagnostic is resolved."

def applyFound (s : Session) (parser : Parser) (root : Root) (path : String)
    (found : Found) (edit : Edit) : Outcome :=
  let full := root.resolve path
  match editedContent parser ((s.files.read? full).getD []) edit with
  | .error rejection => s.say rejection.message
  | .ok output =>
    let s := { s with
      files := s.files.write full output
      marks := s.marks.putFixed path found.message }
    s.say (appliedText path found edit)

/-- Applies the fix for a line, or its first suggestion if one is accepted. -/
def applyFix (s : Session) (parser : Parser) (path : String) (line : Int)
    (acceptSuggestion : Bool) : Outcome :=
  s.withRoot fun root =>
    match s.find parser root path line with
    | .error reason => s.say reason
    | .ok found =>
      match chosenEdit? found.message acceptSuggestion with
      | some edit => s.applyFound parser root path found edit
      | none =>
        s.say (found.note ++ "Auto-fix not available.\n\n**Reason:** " ++
          s.noFixReason parser root path found.message)

/-! ## Confirming a fix -/

def remainingText (remaining : List Message) : String :=
  "\n".intercalate (remaining.map fun m =>
    "- col " ++ toString m.position.column ++ ": " ++ m.text)

def stillPresentText (path : String) (line : Int) (remaining : List Message) : String :=
  "**STILL PRESENT** — `" ++ path ++ ":" ++ toString line ++ "` still has " ++
    toString remaining.length ++ " diagnostic(s):\n" ++ remainingText remaining ++
    "\n\nNested idioms (e.g. `~~~~x`) may need another pass; try `fix_all`."

def verifiedText (path : String) (line : Int) : String :=
  "**VERIFIED** — no diagnostics remain at `" ++ path ++ ":" ++ toString line ++ "`."

/-- Lints a file again and settles the marks of a line. -/
def verifyFix (s : Session) (parser : Parser) (path : String) (line : Int) : Outcome :=
  s.withRoot fun root =>
    let result := lintFile (s.linter parser) s.files (root.resolve path)
    match result.messages.find? (·.fatal) with
    | some fatal => s.say ("**FAILED** — `" ++ path ++ "` no longer parses: " ++ fatal.text)
    | none =>
      let remaining := result.messages.filter fun m => (m.position.line : Int) = line
      if remaining.isEmpty then
        { s with marks := s.marks.settle path line .verified }.say (verifiedText path line)
      else
        { s with marks := s.marks.settle path line .failed }.say
          (stillPresentText path line remaining)

/-! ## A whole file -/

def metricsTable (before : LintResult) (result : FixResult) (dryRun : Bool) : String :=
  "| Metric | Count |\n|--------|-------|\n" ++
    "| Diagnostics before | " ++ toString before.messages.length ++ " |\n" ++
    (if dryRun then "| Would fix | " else "| Fixes applied | ") ++
    toString result.applied ++ " |\n" ++
    "| Passes | " ++ toString result.passes ++ " |\n" ++
    "| Remaining | " ++ toString result.messages.length ++ " |\n"

def remainingTable (messages : List Message) : String :=
  if messages.isEmpty then ""
  else
    "\n### Remaining\n\n| Line | Message | Fix |\n|------|---------|-----|\n" ++
      String.join (messages.map fun m =>
        "| " ++ toString m.position.line ++ " | " ++ m.text ++ " | " ++ m.remedyKind.label ++
          " |\n")

def fixAllText (path : String) (before : LintResult) (result : FixResult) (dryRun : Bool) :
    String :=
  "## Fix All — `" ++ path ++ "`\n\n" ++ metricsTable before result dryRun ++
    remainingTable result.messages

/-- The marks after a run over a file: every diagnostic that had a fix before it is marked. -/
def markFixed (marks : Marks) (path : String) (before : List Message) : Marks :=
  (before.filter (·.fix.isSome)).foldl (fun marks m => marks.putFixed path m) marks

/-- Fixes a whole file in passes, unless the run is dry. -/
def fixAll (s : Session) (parser : Parser) (path : String) (dryRun : Bool) : Outcome :=
  s.withRoot fun root =>
    let full := root.resolve path
    if !s.files.isFile full then s.say (fileNotFound path)
    else
      let before := lintFile (s.linter parser) s.files full
      match before.messages.find? (·.fatal) with
      | some fatal => s.say ("Error: `" ++ path ++ "` does not parse: " ++ fatal.text)
      | none =>
        s.after (fixFile (s.linter parser) s.files full dryRun) fun (result, files) =>
          let marks := if dryRun then s.marks else markFixed s.marks path before.messages
          { s with files := files, marks := marks }.say (fixAllText path before result dryRun)

end TruncIdiom.Session
