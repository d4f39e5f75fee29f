import TruncIdiom.Text.Slice

/-!
Parts of a list, put together again.

A bound that counts from the front is an offset, so `sliceTo` and `sliceFrom` are then what they
look like. `take_append_between` and its kin join neighbouring parts.
-/

namespace TruncIdiom.Text

section
variable {α : Type}

theorem sliceTo_natCast (xs : List α) (n : Nat) : sliceTo xs (n : Int) = xs.take n := by
  simp only [sliceTo, boundOffset]
  rw [if_neg (by omega), Int.toNat_natCast, List.take_eq_take_iff]
  omega

theorem sliceFrom_natCast (xs : List α) (n : Nat) : sliceFrom xs (n : Int) = xs.drop n := by
  simp only [sliceFrom, boundOffset]
  rw [if_neg (by omega), Int.toNat_natCast]
  by_cases h : n ≤ xs.length
  · rw [Nat.min_eq_right h]
  · rw [Nat.min_eq_left (by omega), List.drop_length, List.drop_of_length_le (by omega)]

theorem slice_natCast (xs : List α) (start stop : Nat) :
    slice xs start stop = between xs start stop := by
  have hstop : xs.take (boundOffset xs.length stop) = xs.take stop := sliceTo_natCast xs stop
  have hlength : (xs.take stop).length ≤ xs.length := List.length_take_le' _ _
  rw [slice, between, between, hstop, boundOffset, if_neg (by omega), Int.toNat_natCast]
  rcases Nat.le_total start xs.length with h | h
  · rw [Nat.min_eq_right h]
  · rw [Nat.min_eq_left h, List.drop_eq_nil_of_le hlength,
      List.drop_eq_nil_of_le (Nat.le_trans hlength h)]

theorem between_zero (xs : List α) (stop : Nat) : between xs 0 stop = xs.take stop := rfl

theorem between_self (xs : List α) (n : Nat) : between xs n n = [] := by
  simp [between]

theorem take_append_between (xs : List α) {start stop : Nat} (h : start ≤ stop) :
    xs.take start ++ between xs start stop = xs.take stop := by
  rw [between, ← Nat.min_eq_left h, ← List.take_take, Nat.min_eq_left h, List.take_append_drop]

theorem between_append_between (xs : List α) {a b c : Nat} (h : a ≤ b) (h' : b ≤ c) :
    between xs a b ++ between xs b c = between xs a c := by
  have hjoin : xs.take a ++ (between xs a b ++ between xs b c) = xs.take a ++ between xs a c := by
    rw [← List.append_assoc, take_append_between xs h, take_append_between xs h',
      take_append_between xs (Nat.le_trans h h')]
  exact List.append_cancel_left hjoin

theorem between_append_drop (xs : List α) {start stop : Nat} (h : start ≤ stop) :
    between xs start stop ++ xs.drop stop = xs.drop start := by
  have hjoin : xs.take start ++ (between xs start stop ++ xs.drop stop) =
      xs.take start ++ xs.drop start := by
    rw [← List.append_assoc, take_append_between xs h, List.take_append_drop,
      List.take_append_drop]
  exact List.append_cancel_left hjoin

end

end TruncIdiom.Text
