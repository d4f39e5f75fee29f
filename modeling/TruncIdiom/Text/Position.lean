import TruncIdiom.Text.Slice
import TruncIdiom.Text.Utf8

/-!
Places in a source as an editor shows them.

A position is a line and a column, both counted from one. Lines end at the newline byte only, and
columns count characters, so a position depends only on the bytes in front of the place.
-/

namespace TruncIdiom.Text

structure Position where
  line : Nat
  column : Nat
  deriving DecidableEq, Repr

def newline : UInt8 := 0x0A

def lastLine (bytes : Bytes) : Bytes := (bytes.reverse.takeWhile (· ≠ newline)).reverse

/-- The position just after these bytes of a source. -/
def Position.after (bytes : Bytes) : Position :=
  ⟨bytes.count newline + 1, (decodeChars (lastLine bytes)).length + 1⟩

/-- The position of an offset, which may also count from the end. -/
def Position.ofOffset (source : Bytes) (offset : Int) : Position :=
  .after (sliceTo source offset)

def Position.le (p q : Position) : Bool :=
  decide (p.line < q.line) || (p.line == q.line && decide (p.column ≤ q.column))

end TruncIdiom.Text
