/-!
Texts as lines.

`linesOf` cuts after each newline character and nowhere else, and keeps it, so the lines join to
the text: these are the lines that positions count. `screenLines` cuts at every line boundary that
a terminal or an editor may show as one, and drops it.
-/

namespace TruncIdiom.Text

/-- The lines of a list of characters, each with its newline. -/
def charLines : List Char → List (List Char)
  | [] => []
  | c :: rest =>
    if c = '\n' then [c] :: charLines rest
    else
      match charLines rest with
      | [] => [[c]]
      | line :: lines => (c :: line) :: lines

def linesOf (s : String) : List String := (charLines s.toList).map String.ofList

/-- Whether a character alone bounds a line on screen. A carriage return together with a newline
after it is one boundary. -/
def isScreenBoundary (c : Char) : Bool :=
  c = '\n' || c = '\r' || c = '\x0B' || c = '\x0C' || c = '\x1C' || c = '\x1D' || c = '\x1E' ||
    c = '\u0085' || c = '\u2028' || c = '\u2029'

def charScreenLines : List Char → List (List Char)
  | [] => []
  | '\r' :: '\n' :: rest => [] :: charScreenLines rest
  | c :: rest =>
    if isScreenBoundary c then [] :: charScreenLines rest
    else
      match charScreenLines rest with
      | [] => [[c]]
      | line :: lines => (c :: line) :: lines

/-- The screen lines of a text, without their boundaries. -/
def screenLines (s : String) : List String := (charScreenLines s.toList).map String.ofList

/-- The text without the carriage returns and newlines at its end. -/
def withoutLineEnd (s : String) : String :=
  String.ofList (s.toList.reverse.dropWhile (fun c => c = '\r' || c = '\n')).reverse

def withoutNewlines (s : String) : String :=
  String.ofList (s.toList.reverse.dropWhile (· = '\n')).reverse

/-- Every carriage return, with a newline after it or not, becomes a newline. -/
def uniformNewlines : List Char → List Char
  | [] => []
  | '\r' :: '\n' :: rest => '\n' :: uniformNewlines rest
  | c :: rest => (if c = '\r' then '\n' else c) :: uniformNewlines rest

end TruncIdiom.Text
