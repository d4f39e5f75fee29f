import TruncIdiom.Collection.Entries
import TruncIdiom.Json.Value
import TruncIdiom.Text.Blank
import TruncIdiom.Text.Pattern

/-!
Message templates.

A placeholder is two opening braces, a key without braces, and two closing braces, with any blanks
around the key. The blanks in front of the key take as much as they can and the key as little, so
it has blanks at its ends only when nothing else stands between the braces. `render` reads a
template once from left to right and puts the value of the key in the place of each placeholder
whose key the data knows. What it writes is not read again.
-/

namespace TruncIdiom.Rule

open Text Json

abbrev Data := List (String × Value)

def isKeyChar (c : Char) : Bool := c ≠ '\x7b' && c ≠ '\x7d'

def placeholderPattern : Pattern := [
  ⟨.one, (· = '\x7b')⟩, ⟨.one, (· = '\x7b')⟩,
  ⟨.most, isBlank⟩, ⟨.fewest, isKeyChar⟩, ⟨.most, isBlank⟩,
  ⟨.one, (· = '\x7d')⟩, ⟨.one, (· = '\x7d')⟩]

/-- A placeholder of a template. -/
structure Placeholder where
  key : List Char
  written : List Char
  deriving DecidableEq, Repr

/-- The placeholder in front of a text. The key is what the fourth stretch of the pattern takes. -/
def placeholder? (text : List Char) : Option Placeholder :=
  (placeholderPattern.match? text).map fun parts => ⟨parts.getD 3 [], parts.flatten⟩

/-- What stands for a placeholder: the text of its value, or itself when the data has none. -/
def Placeholder.filled (p : Placeholder) (data : Data) : List Char :=
  match Collection.Entries.get? data (String.ofList p.key) with
  | some value => value.text.toList
  | none => p.written

/-- Renders the rest of a template. The first `skip` characters belong to a placeholder that is
filled already. -/
def renderFrom (data : Data) (skip : Nat) : List Char → List Char
  | [] => []
  | c :: rest =>
    match skip with
    | skip + 1 => renderFrom data skip rest
    | 0 =>
      match placeholder? (c :: rest) with
      | some p => p.filled data ++ renderFrom data (p.written.length - 1) rest
      | none => c :: renderFrom data 0 rest

def render (template : String) (data : Data) : String :=
  String.ofList (renderFrom data 0 template.toList)

end TruncIdiom.Rule
