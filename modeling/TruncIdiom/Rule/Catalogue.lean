/-!
The rules that are shipped, as they are described to a reader.

`RuleInfo` is what is known of a rule apart from its checks. `explain` renders one as markdown.
-/

namespace TruncIdiom.Rule

/-- The description of a rule. Its messages are templates by message id. -/
structure RuleInfo where
  id : String
  type : String := "problem"
  description : String := ""
  messages : List (String × String) := []
  nonCompliant : String := ""
  compliant : String := ""
  recommended : Bool := true
  fixable : Option String := none
  hasSuggestions : Bool := false
  notes : List String := []
  deriving DecidableEq, Repr

/-- The template of a message; an id without one stands for itself. -/
def RuleInfo.template (info : RuleInfo) (messageId : String) : String :=
  ((info.messages.find? (·.1 = messageId)).map (·.2)).getD messageId

/-! ## The rule against bitwise truncation -/

/-- The message for `x | 0` and its kin. -/
def bitwiseZeroId : String := "error-bitwise"

def doubleNotId : String := "error-bitwise-not"

def bitwiseSuggestionId : String := "suggestion-bitwise"

def truncationInfo : RuleInfo where
  id := "prefer-math-trunc"
  type := "suggestion"
  description := "Enforce the use of `Math.trunc` instead of bitwise operators."
  messages := [
    (bitwiseZeroId,
      "Use `Math.trunc` instead of `\x7b\x7boperator\x7d\x7d \x7b\x7bvalue\x7d\x7d`."),
    (doubleNotId, "Use `Math.trunc` instead of `~~`."),
    (bitwiseSuggestionId,
      "Replace `\x7b\x7boperator\x7d\x7d \x7b\x7bvalue\x7d\x7d` with `Math.trunc`.")]
  nonCompliant :=
    "const foo = 37.4 | 0;\nconst bar = ~~37.4;\nlet baz = 37.4;\nbaz >>= 0;\nbaz |= 0;"
  compliant :=
    "const foo = Math.trunc(37.4);\nconst bar = Math.trunc(37.4);\n" ++
      "let baz = 37.4;\nbaz = Math.trunc(baz);"
  fixable := some "code"
  hasSuggestions := true
  notes := [
    "`x | 0` is only offered as a suggestion: it is a common, sometimes deliberate " ++
      "int32 coercion, so it is never rewritten automatically.",
    "Compound assignments whose target has side effects (calls, updates, `delete`) are " ++
      "reported without a fix, since the target would have to be evaluated twice.",
    "Only the literal `0` is matched; expressions that merely evaluate to zero are ignored."]

/-! ## The catalogue -/

/-- The rules shipped, in the order of their ids. -/
def catalogue : List RuleInfo := [truncationInfo]

def ruleInfo? (id : String) : Option RuleInfo := catalogue.find? (·.id = id)

def yesNo (b : Bool) : String := if b then "yes" else "no"

def RuleInfo.markdown (info : RuleInfo) : String :=
  "## " ++ info.id ++ "\n\n" ++ info.description ++ "\n\n" ++
    "- **Type**: " ++ info.type ++ "\n" ++
    "- **Recommended**: " ++ yesNo info.recommended ++ "\n" ++
    "- **Auto-fixable**: " ++ info.fixable.getD "no" ++ "\n" ++
    "- **Has suggestions**: " ++ yesNo info.hasSuggestions ++ "\n\n" ++
    "### Messages\n" ++
    String.join (info.messages.map fun m => "- `" ++ m.1 ++ "`: " ++ m.2 ++ "\n") ++ "\n" ++
    "### Non-Compliant\n```js\n" ++ info.nonCompliant ++ "\n```\n\n" ++
    "### Compliant\n```js\n" ++ info.compliant ++ "\n```\n" ++
    (if info.notes.isEmpty then ""
      else "\n### Notes\n" ++ String.join (info.notes.map fun note => "- " ++ note ++ "\n"))

def explain (id : String) : String :=
  match ruleInfo? id with
  | some info => info.markdown
  | none =>
    "Unknown rule `" ++ id ++ "`. Known rules: " ++
      ", ".intercalate (catalogue.map fun info => "`" ++ info.id ++ "`")

end TruncIdiom.Rule
