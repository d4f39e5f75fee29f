import Mathlib.Algebra.GroupWithZero.Nat
import TruncIdiom.Proofs.Text.Utf8

/-!
Reading ill-formed bytes never makes them fewer.

A reader that is part of the way through a sequence has taken at most three bytes of it (`Taken`),
and either completes it, to a character that is written in as many bytes as it took, or gives it
up for U+FFFD, which is written in three. So what is read from any bytes is written in as many bytes
at least (`length_le_length_encode_decode`).
-/

namespace TruncIdiom.Text

/-! ## The size of what is read -/

def writtenSize (cs : List Char) : Nat := (cs.map Char.utf8Size).sum

@[simp] theorem writtenSize_nil : writtenSize [] = 0 := rfl

@[simp] theorem writtenSize_cons (c : Char) (cs : List Char) :
    writtenSize (c :: cs) = c.utf8Size + writtenSize cs := by
  simp [writtenSize]

@[simp] theorem writtenSize_append (cs ds : List Char) :
    writtenSize (cs ++ ds) = writtenSize cs + writtenSize ds := by
  simp [writtenSize]

@[simp] theorem writtenSize_reverse (cs : List Char) :
    writtenSize cs.reverse = writtenSize cs := by
  simp [writtenSize]

theorem length_encode_ofList (cs : List Char) :
    (encode (String.ofList cs)).length = writtenSize cs := by
  rw [encode_ofList, List.length_flatMap, writtenSize]
  simp only [String.length_utf8EncodeChar]

theorem utf8Size_replacement : replacement.utf8Size = 3 := rfl

theorem le_utf8Size_ofNat {v size : Nat} (hvalid : v.isValidChar)
    (h : size ≤ 1 ∨ 0x80 ≤ v ∧ size ≤ 2 ∨ 0x800 ≤ v ∧ size ≤ 3 ∨ 0x10000 ≤ v ∧ size ≤ 4) :
    size ≤ (Char.ofNat v).utf8Size := by
  have hval : (Char.ofNat v).val.toNat = v := by
    rw [Char.ofNat, dif_pos hvalid]
    rfl
  simp only [Char.utf8Size, UInt32.le_iff_toNat_le, hval, UInt32.toNat_ofNatLT]
  split
  · omega
  · split
    · omega
    · split <;> omega

/-! ## Sequences that have begun -/

/-- How many bytes of a sequence a reader has taken. The value so far and the bounds of the next
byte are such that a sequence which is completed could not have been shorter. -/
inductive Taken : Nat → Expecting → Prop
  | nothing : Taken 0 .character
  | oneOfTwo {v : Nat} : 2 ≤ v → v ≤ 0x1F → Taken 1 (.continuation v 0x80 0xBF 0)
  | oneOfThree {v : Nat} {low high : UInt8} : v ≤ 0xF → 0x80 ≤ low.toNat → high.toNat ≤ 0xBF →
      (v = 0 → 0xA0 ≤ low.toNat) → (v = 0xD → high.toNat ≤ 0x9F) →
      Taken 1 (.continuation v low high 1)
  | twoOfThree {v : Nat} : 0x20 ≤ v → v ≤ 0x3FF → (v < 0x360 ∨ 0x37F < v) →
      Taken 2 (.continuation v 0x80 0xBF 0)
  | oneOfFour {v : Nat} {low high : UInt8} : v ≤ 4 → 0x80 ≤ low.toNat → high.toNat ≤ 0xBF →
      (v = 0 → 0x90 ≤ low.toNat) → (v = 4 → high.toNat ≤ 0x8F) →
      Taken 1 (.continuation v low high 2)
  | twoOfFour {v : Nat} : 0x10 ≤ v → v ≤ 0x10F → Taken 2 (.continuation v 0x80 0xBF 1)
  | threeOfFour {v : Nat} : 0x400 ≤ v → v ≤ 0x43FF → Taken 3 (.continuation v 0x80 0xBF 0)

theorem Taken.le_three {taken : Nat} {state : Expecting} (h : Taken taken state) : taken ≤ 3 := by
  cases h <;> omega

/-- A step leaves no byte behind: the characters that are complete then, and what is begun, make up
for the byte and for those taken before. -/
def Keeps (taken : Nat) (outcome : List Char × Expecting) : Prop :=
  ∃ taken', Taken taken' outcome.2 ∧ taken + 1 ≤ writtenSize outcome.1 + taken'

theorem Keeps.character {taken : Nat} {c : Char} (h : taken + 1 ≤ c.utf8Size) :
    Keeps taken ([c], .character) :=
  ⟨0, .nothing, by simpa using h⟩

theorem Keeps.more {taken : Nat} {state : Expecting} (h : Taken (taken + 1) state) :
    Keeps taken ([], state) :=
  ⟨taken + 1, h, by simp⟩

theorem keeps_beginCharacter (b : UInt8) : Keeps 0 (beginCharacter b) := by
  by_cases h1 : b.toNat < 0x80
  · rw [beginCharacter_one h1]
    exact .character (le_utf8Size_ofNat (.inl (by omega)) (.inl (by omega)))
  by_cases h2 : b.toNat < 0xC2 ∨ 0xF5 ≤ b.toNat
  · rw [beginCharacter_none (by omega) h2]
    exact .character (by rw [utf8Size_replacement]; omega)
  by_cases h3 : b.toNat < 0xE0
  · rw [beginCharacter_two (by omega) h3]
    exact .more (.oneOfTwo (by omega) (by omega))
  by_cases h4 : b.toNat < 0xF0
  · rw [beginCharacter_three (by omega) h4]
    refine .more (.oneOfThree (by omega) ?_ ?_ ?_ ?_)
    · split <;> decide
    · split <;> decide
    · intro hvalue
      rw [if_pos (UInt8.toNat_inj.mp (show b.toNat = 0xE0 by omega))]
      decide
    · intro hvalue
      rw [if_pos (UInt8.toNat_inj.mp (show b.toNat = 0xED by omega))]
      decide
  · rw [beginCharacter_four (by omega) (by omega)]
    refine .more (.oneOfFour (by omega) ?_ ?_ ?_ ?_)
    · split <;> decide
    · split <;> decide
    · intro hvalue
      rw [if_pos (UInt8.toNat_inj.mp (show b.toNat = 0xF0 by omega))]
      decide
    · intro hvalue
      rw [if_pos (UInt8.toNat_inj.mp (show b.toNat = 0xF4 by omega))]
      decide

theorem step_last {value : Nat} {low high b : UInt8} (h : low ≤ b ∧ b ≤ high) :
    (Expecting.continuation value low high 0).step b =
      ([Char.ofNat (value * 64 + (b.toNat - 0x80))], .character) := by
  simp [Expecting.step, h]

theorem step_more {value more : Nat} {low high b : UInt8} (h : low ≤ b ∧ b ≤ high) :
    (Expecting.continuation value low high (more + 1)).step b =
      ([], .continuation (value * 64 + (b.toNat - 0x80)) 0x80 0xBF more) := by
  simp [Expecting.step, h]

theorem step_broken {value more : Nat} {low high b : UInt8} (h : ¬ (low ≤ b ∧ b ≤ high)) :
    (Expecting.continuation value low high more).step b =
      (replacement :: (beginCharacter b).1, (beginCharacter b).2) := by
  simp only [Expecting.step, if_neg h]

/-- A sequence given up is written in as many bytes as it has at most. -/
theorem Keeps.broken {taken : Nat} {b : UInt8} (h : taken ≤ 3) :
    Keeps taken (replacement :: (beginCharacter b).1, (beginCharacter b).2) := by
  obtain ⟨taken', htaken, hkept⟩ := keeps_beginCharacter b
  refine ⟨taken', htaken, ?_⟩
  rw [writtenSize_cons, utf8Size_replacement]
  omega

theorem Taken.keeps_step {taken : Nat} {state : Expecting} (h : Taken taken state) (b : UInt8) :
    Keeps taken (state.step b) := by
  have hthree := h.le_three
  cases state with
  | character =>
    cases h
    exact keeps_beginCharacter b
  | continuation value low high more =>
    by_cases hin : low ≤ b ∧ b ≤ high
    · obtain ⟨hlow, hhigh⟩ := hin
      have hlow' := UInt8.le_iff_toNat_le.mp hlow
      have hhigh' := UInt8.le_iff_toNat_le.mp hhigh
      -- The next byte adds six bits to the value, or completes it.
      cases h with
      | oneOfTwo h1 h2 =>
        rw [step_last ⟨hlow, hhigh⟩]
        simp only [UInt8.reduceToNat] at hlow' hhigh'
        exact .character (le_utf8Size_ofNat (.inl (by omega)) (by omega))
      | oneOfThree h1 h2 h3 h4 h5 =>
        rw [step_more ⟨hlow, hhigh⟩]
        exact .more (.twoOfThree (by omega) (by omega) (by omega))
      | twoOfThree h1 h2 h3 =>
        rw [step_last ⟨hlow, hhigh⟩]
        simp only [UInt8.reduceToNat] at hlow' hhigh'
        exact .character (le_utf8Size_ofNat (by unfold Nat.isValidChar; omega) (by omega))
      | oneOfFour h1 h2 h3 h4 h5 =>
        rw [step_more ⟨hlow, hhigh⟩]
        exact .more (.twoOfFour (by omega) (by omega))
      | twoOfFour h1 h2 =>
        rw [step_more ⟨hlow, hhigh⟩]
        simp only [UInt8.reduceToNat] at hlow' hhigh'
        exact .more (.threeOfFour (by omega) (by omega))
      | threeOfFour h1 h2 =>
        rw [step_last ⟨hlow, hhigh⟩]
        simp only [UInt8.reduceToNat] at hlow' hhigh'
        exact .character (le_utf8Size_ofNat (by unfold Nat.isValidChar; omega) (by omega))
    · rw [step_broken hin]
      exact .broken hthree

/-! ## Any bytes -/

/-- What has been read, written again, and the bytes of an open sequence are together no fewer than
the bytes there were. -/
theorem length_le_writtenSize_foldl {taken : Nat} (bytes : Bytes) (read : List Char)
    {state : Expecting} (h : Taken taken state) :
    ∃ taken', Taken taken' (bytes.foldl Reading.feed ⟨read, state⟩).expecting ∧
      writtenSize read + taken + bytes.length ≤
        writtenSize (bytes.foldl Reading.feed ⟨read, state⟩).read + taken' := by
  induction bytes generalizing taken read state with
  | nil => exact ⟨taken, h, by simp⟩
  | cons b bytes ih =>
    obtain ⟨between, hbetween, hstep⟩ := h.keeps_step b
    obtain ⟨taken', htaken, hrest⟩ := ih ((state.step b).1.reverse ++ read) hbetween
    refine ⟨taken', htaken, ?_⟩
    rw [writtenSize_append, writtenSize_reverse] at hrest
    rw [List.length_cons, List.foldl_cons]
    calc writtenSize read + taken + (bytes.length + 1)
      _ ≤ writtenSize (state.step b).1 + writtenSize read + between + bytes.length := by omega
      _ ≤ _ := hrest

theorem length_le_writtenSize_decodeChars (bytes : Bytes) :
    bytes.length ≤ writtenSize (decodeChars bytes) := by
  obtain ⟨taken, htaken, hsize⟩ := length_le_writtenSize_foldl bytes [] .nothing
  have hthree := htaken.le_three
  rw [decodeChars, Reading.finish]
  cases hstate : (bytes.foldl Reading.feed {}).expecting with
  | character =>
    rw [hstate] at htaken
    cases htaken
    simpa using hsize
  | continuation value low high more =>
    simp only [writtenSize_reverse, writtenSize_cons, utf8Size_replacement]
    simp only [writtenSize_nil] at hsize
    omega

/-- Whatever bytes are read, their text is written in as many bytes at least. -/
theorem length_le_length_encode_decode (bytes : Bytes) :
    bytes.length ≤ (encode (decode bytes)).length := by
  rw [decode, length_encode_ofList]
  exact length_le_writtenSize_decodeChars bytes

end TruncIdiom.Text
