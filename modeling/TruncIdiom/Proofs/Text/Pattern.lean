import Mathlib.Data.List.Forall2
import TruncIdiom.Text.Pattern

/-!
What patterns match.

A match divides the front of a text into one piece for each stretch of the pattern, and each piece
is one that its stretch `Takes` (`takes_of_match?`). Which division it is follows from what each
amount tries first: `match?_cons` gives the match of a pattern from the match behind a piece when
the rest does not match behind any piece that is tried before it.
-/

namespace TruncIdiom.Text

/-! ## What a stretch takes -/

def Amount.Allows : Amount → Nat → Prop
  | .one, n => n = 1
  | .most, _ => True
  | .fewest, n => 1 ≤ n

/-- Whether one length is tried before another. -/
def Amount.Before : Amount → Nat → Nat → Prop
  | .one, _, _ => False
  | .most, m, n => n < m
  | .fewest, m, n => m < n

/-- Whether a stretch may take a piece of text. -/
structure Stretch.Takes (s : Stretch) (piece : List Char) : Prop where
  accepted : ∀ c ∈ piece, s.accepts c = true
  allowed : s.amount.Allows piece.length

theorem le_length_takeWhile_iff {p : Char → Bool} {text : List Char} {n : Nat} :
    n ≤ (text.takeWhile p).length ↔ n ≤ text.length ∧ ∀ c ∈ text.take n, p c = true := by
  induction text generalizing n with
  | nil => simp
  | cons c text ih =>
    cases n with
    | zero => simp
    | succ n =>
      cases hc : p c
      · simp [hc]
      · simp [hc, ih]

theorem mem_counts {s : Stretch} {text : List Char} {n : Nat} :
    n ∈ s.counts text ↔ n ≤ text.length ∧ s.Takes (text.take n) := by
  have hrun : n ≤ (text.takeWhile s.accepts).length ∧ s.amount.Allows n ↔
      n ≤ text.length ∧ s.Takes (text.take n) := by
    rw [le_length_takeWhile_iff]
    constructor
    · rintro ⟨⟨hn, haccepted⟩, hallowed⟩
      exact ⟨hn, haccepted, by rwa [List.length_take_of_le hn]⟩
    · rintro ⟨hn, haccepted, hallowed⟩
      exact ⟨⟨hn, haccepted⟩, by rwa [List.length_take_of_le hn] at hallowed⟩
  rw [← hrun, Stretch.counts]
  cases s.amount with
  | one =>
    show n ∈ (if (text.takeWhile s.accepts).length = 0 then [] else [1]) ↔ _ ∧ n = 1
    split
    · simp only [List.not_mem_nil, false_iff]
      omega
    · rw [List.mem_singleton]
      omega
  | most =>
    show n ∈ (List.range _).reverse ↔ _ ∧ True
    rw [List.mem_reverse, List.mem_range, and_true, Nat.lt_succ_iff]
  | fewest =>
    show n ∈ (List.range _).map (· + 1) ↔ _ ∧ 1 ≤ n
    simp only [List.mem_map, List.mem_range]
    constructor
    · rintro ⟨m, hm, rfl⟩
      omega
    · intro h
      exact ⟨n - 1, by omega, by omega⟩

theorem pairwise_counts (s : Stretch) (text : List Char) :
    (s.counts text).Pairwise s.amount.Before := by
  rw [Stretch.counts]
  cases s.amount with
  | one =>
    show (if (text.takeWhile s.accepts).length = 0 then [] else [1]).Pairwise (Amount.Before .one)
    split
    · exact .nil
    · exact List.pairwise_singleton _ _
  | most => exact List.pairwise_reverse.mpr List.pairwise_lt_range
  | fewest =>
    refine List.Pairwise.map _ ?_ List.pairwise_lt_range
    intro m n hmn
    show m + 1 < n + 1
    omega

/-! ## Matches -/

theorem takes_of_match? {pattern : Pattern} {text : List Char} {pieces : List (List Char)}
    (h : pattern.match? text = some pieces) :
    List.Forall₂ Stretch.Takes pattern pieces ∧ ∃ rest, text = pieces.flatten ++ rest := by
  induction pattern generalizing text pieces with
  | nil =>
    obtain rfl := Option.some.inj h
    exact ⟨.nil, text, rfl⟩
  | cons s pattern ih =>
    rw [Pattern.match?] at h
    obtain ⟨n, hn, hmatch⟩ := List.exists_of_findSome?_eq_some h
    obtain ⟨others, hothers, rfl⟩ := Option.map_eq_some_iff.mp hmatch
    obtain ⟨htakes, rest, hrest⟩ := ih hothers
    refine ⟨.cons (mem_counts.mp hn).2 htakes, rest, ?_⟩
    rw [List.flatten_cons, List.append_assoc, ← hrest, List.take_append_drop]

/-- Of a list in some order, the first that gives a result is one that no other that does stands
before. -/
theorem findSome?_of_pairwise {α β : Type} {R : α → α → Prop} {f : α → Option β} {xs : List α}
    {x : α} {y : β} (hxs : xs.Pairwise R) (hx : x ∈ xs) (hfirst : ∀ z ∈ xs, R z x → f z = none)
    (hy : f x = some y) : xs.findSome? f = some y := by
  obtain ⟨front, back, rfl⟩ := List.append_of_mem hx
  refine List.findSome?_eq_some_iff.mpr ⟨front, x, back, rfl, hy, ?_⟩
  intro z hz
  apply hfirst z (List.mem_append_left _ hz)
  exact (List.pairwise_append.mp hxs).2.2 z hz x List.mem_cons_self

/-- A pattern takes a piece and goes on behind it when it does not go on behind any piece that is
tried before. -/
theorem match?_cons {s : Stretch} {pattern : Pattern} {piece rest : List Char}
    {pieces : List (List Char)} (htakes : s.Takes piece) (hrest : pattern.match? rest = some pieces)
    (hfirst : ∀ piece' rest', piece' ++ rest' = piece ++ rest → s.Takes piece' →
      s.amount.Before piece'.length piece.length → pattern.match? rest' = none) :
    Pattern.match? (s :: pattern) (piece ++ rest) = some (piece :: pieces) := by
  rw [Pattern.match?]
  apply findSome?_of_pairwise (x := piece.length) (pairwise_counts s _)
  · exact mem_counts.mpr ⟨by simp, by rwa [List.take_left]⟩
  · intro m hm hbefore
    obtain ⟨hle, htakes'⟩ := mem_counts.mp hm
    rw [hfirst _ _ (List.take_append_drop m _) htakes' (by rwa [List.length_take_of_le hle]),
      Option.map_none]
  · rw [List.take_left, List.drop_left, hrest, Option.map_some]

theorem match?_one_cons {accepts : Char → Bool} {pattern : Pattern} {c : Char} {rest : List Char}
    {pieces : List (List Char)} (hc : accepts c = true)
    (hrest : pattern.match? rest = some pieces) :
    Pattern.match? (⟨.one, accepts⟩ :: pattern) (c :: rest) = some ([c] :: pieces) := by
  show Pattern.match? (⟨.one, accepts⟩ :: pattern) ([c] ++ rest) = _
  refine match?_cons ⟨?_, rfl⟩ hrest ?_
  · intro d hd
    rwa [List.mem_singleton.mp hd]
  · intro _ _ _ _ hbefore
    exact hbefore.elim

end TruncIdiom.Text
