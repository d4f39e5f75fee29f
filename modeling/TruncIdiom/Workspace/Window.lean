import TruncIdiom.Lint.Config
import TruncIdiom.Text.Lines
import TruncIdiom.Text.Slice
import TruncIdiom.Workspace.FileMap

/-!
The lines around a line.

A window holds the lines of a source no further than some number of lines from a target. Lines are
those that positions count. Of a long source only the first lines are served; the limit is a setting
and may be any value. The bounds of a window may leave the source on either side, also so far that
the last bound counts from the end.
-/

namespace TruncIdiom.Workspace

open Text Json Lint

/-! ## Served lines -/

def exceeds (count : Nat) (limit : Value) : Except ConfigError Bool :=
  match limit with
  | .int n => .ok (n < count)
  | .bool b => .ok ((if b then 1 else 0) < count)
  | .float x => .ok (x.below count)
  | _ => .error (.linesNotOrdered limit.kind)

/-- The lines up to a limit, which counts from the end when it is negative. -/
def linesTo (lines : List String) (limit : Value) : Except ConfigError (List String) :=
  match limit with
  | .int n => .ok (sliceTo lines n)
  | .bool b => .ok (lines.take (if b then 1 else 0))
  | _ => .error .linesNotInteger

def servedLines (source : Bytes) (limit : Value) : Except ConfigError (List String) := do
  let lines := linesOf (decode source)
  if ← exceeds lines.length limit then linesTo lines limit else return lines

/-! ## Windows -/

/-- Some lines in a row, and the numbers of the first and of the last bound. -/
structure Window where
  first : Int
  last : Int
  lines : List String
  deriving DecidableEq, Repr

/-- The lines around a target, `reach` on either side. -/
def Window.around (lines : List String) (target reach : Int) : Window :=
  let first := max 1 (target - reach)
  let last := min (lines.length : Int) (target + reach)
  ⟨first, last, slice lines (first - 1) last⟩

def Window.plain (w : Window) : String := String.join w.lines

def padded (width : Nat) (number : Int) : String :=
  let shown := toString number
  String.ofList (List.replicate (width - shown.length) ' ') ++ shown

/-- A line with its number. The target has a mark. -/
def numberedLine (width : Nat) (target number : Int) (line : String) : String :=
  (if number = target then ">" else " ") ++ " " ++ padded width number ++ " | " ++
    withoutLineEnd line ++ "\n"

def numberedLines (width : Nat) (target : Int) : Int → List String → List String
  | _, [] => []
  | number, line :: lines =>
    numberedLine width target number line :: numberedLines width target (number + 1) lines

/-- The lines with their numbers. Numbers are as wide as that of the last bound. -/
def Window.numbered (w : Window) (target : Int) : String :=
  String.join (numberedLines (toString w.last).length target w.first w.lines)

def codeContext (m : FileMap) (root : String) (limit : Value) (path : String)
    (target reach : Int) (withNumbers : Bool) : Except ConfigError String :=
  match m.readSource? (resolvePath root path) with
  | none => .ok ("Error: Cannot read " ++ path)
  | some source => do
    let window := Window.around (← servedLines source limit) target reach
    return if withNumbers then window.numbered target else window.plain

/-- The number of lines on either side when none is given. -/
def defaultReach : Int := 5

end TruncIdiom.Workspace
