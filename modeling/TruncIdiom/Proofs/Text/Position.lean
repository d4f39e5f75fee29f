import TruncIdiom.Proofs.Text.Slice
import TruncIdiom.Proofs.Text.Utf8
import TruncIdiom.Text.Position

/-!
Positions follow offsets.

A byte more in front of a place never moves it back: a newline moves it to the next line, and any
other byte leaves the line and takes no character away, whether it completes one, continues one or
spoils one. Hence `ofOffset_le_ofOffset`, for every source, text or not. The line alone grows by the
newlines passed over (`line_ofOffset`).
-/

namespace TruncIdiom.Text

/-! ## Characters in front of a place -/

/-- The characters that a reader would still add if the input ended. -/
def Expecting.pending : Expecting → Nat
  | .character => 0
  | .continuation .. => 1

theorem length_finish (r : Reading) : r.finish.length = r.read.length + r.expecting.pending := by
  obtain ⟨read, expecting⟩ := r
  cases expecting <;> simp [Reading.finish, Expecting.pending]

theorem pending_le_step (state : Expecting) (b : UInt8) :
    state.pending ≤ (state.step b).1.length + (state.step b).2.pending := by
  cases state with
  | character => exact Nat.zero_le _
  | continuation value low high more =>
    simp only [Expecting.step, Expecting.pending]
    split
    · cases more <;> simp
    · simp only [List.length_cons]
      omega

theorem length_decodeChars_le (bytes : Bytes) (b : UInt8) :
    (decodeChars bytes).length ≤ (decodeChars (bytes ++ [b])).length := by
  have hstep := pending_le_step (bytes.foldl Reading.feed {}).expecting b
  simp only [decodeChars, List.foldl_append, List.foldl, length_finish, Reading.feed,
    List.length_append, List.length_reverse]
  omega

/-! ## The order of positions -/

theorem Position.le_iff {p q : Position} :
    p.le q = true ↔ p.line < q.line ∨ p.line = q.line ∧ p.column ≤ q.column := by
  simp [Position.le]

theorem Position.le_refl (p : Position) : p.le p = true :=
  le_iff.mpr (.inr ⟨rfl, Nat.le_refl _⟩)

theorem Position.le_trans {p q r : Position} (h : p.le q = true) (h' : q.le r = true) :
    p.le r = true := by
  rw [le_iff] at *
  omega

/-! ## Places -/

theorem lastLine_append {b : UInt8} (bytes : Bytes) (h : b ≠ newline) :
    lastLine (bytes ++ [b]) = lastLine bytes ++ [b] := by
  simp [lastLine, h]

theorem after_le_after_concat (bytes : Bytes) (b : UInt8) :
    (Position.after bytes).le (Position.after (bytes ++ [b])) = true := by
  rw [Position.le_iff]
  by_cases h : b = newline
  · subst h
    left
    simp [Position.after]
  · right
    constructor
    · simp [Position.after, h]
    · simp only [Position.after, lastLine_append bytes h]
      exact Nat.succ_le_succ (length_decodeChars_le _ b)

theorem after_le_after_append (front back : Bytes) :
    (Position.after front).le (Position.after (front ++ back)) = true := by
  induction back generalizing front with
  | nil => rw [List.append_nil]; exact Position.le_refl _
  | cons b back ih =>
    have h := ih (front ++ [b])
    rw [List.append_assoc, List.singleton_append] at h
    exact Position.le_trans (after_le_after_concat front b) h

theorem ofOffset_natCast (source : Bytes) (offset : Nat) :
    Position.ofOffset source offset = .after (source.take offset) := by
  rw [Position.ofOffset, sliceTo_natCast]

theorem ofOffset_le_ofOffset (source : Bytes) {a b : Nat} (h : a ≤ b) :
    (Position.ofOffset source a).le (Position.ofOffset source b) = true := by
  rw [ofOffset_natCast, ofOffset_natCast, ← take_append_between source h]
  exact after_le_after_append _ _

theorem line_after_append (front back : Bytes) :
    (Position.after (front ++ back)).line = (Position.after front).line + back.count newline := by
  simp only [Position.after, List.count_append]
  omega

theorem line_ofOffset (source : Bytes) {a b : Nat} (h : a ≤ b) :
    (Position.ofOffset source b).line =
      (Position.ofOffset source a).line + (between source a b).count newline := by
  rw [ofOffset_natCast, ofOffset_natCast, ← take_append_between source h]
  exact line_after_append _ _

end TruncIdiom.Text
