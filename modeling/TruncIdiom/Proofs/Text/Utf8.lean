import TruncIdiom.Text.Slice
import TruncIdiom.Text.Utf8

/-!
UTF-8, read and written.

`decodeChars_encode_append` is the round trip: what is read from a text that was written, with any
bytes behind it, is that text and then what is read from those bytes. So a byte string is written in
one way at most, and `Boundary`, an offset between two characters, cuts a written text into two.
`encode_decode_between` is what edits rest on: the bytes between two boundaries are read and written
without a change.
-/

namespace TruncIdiom.Text

/-! ## One byte -/

theorem feed_character (read : List Char) (b : UInt8) :
    (Reading.mk read .character).feed b =
      ⟨(beginCharacter b).1.reverse ++ read, (beginCharacter b).2⟩ := rfl

theorem feed_last {value : Nat} {low high b : UInt8} (read : List Char)
    (h : low.toNat ≤ b.toNat) (h' : b.toNat ≤ high.toNat) :
    (Reading.mk read (.continuation value low high 0)).feed b =
      ⟨Char.ofNat (value * 64 + (b.toNat - 0x80)) :: read, .character⟩ := by
  simp [Reading.feed, Expecting.step, UInt8.le_iff_toNat_le, h, h']

theorem feed_more {value more : Nat} {low high b : UInt8} (read : List Char)
    (h : low.toNat ≤ b.toNat) (h' : b.toNat ≤ high.toNat) :
    (Reading.mk read (.continuation value low high (more + 1))).feed b =
      ⟨read, .continuation (value * 64 + (b.toNat - 0x80)) 0x80 0xBF more⟩ := by
  simp [Reading.feed, Expecting.step, UInt8.le_iff_toNat_le, h, h']

theorem beginCharacter_one {b : UInt8} (h : b.toNat < 0x80) :
    beginCharacter b = ([Char.ofNat b.toNat], .character) := by
  simp [beginCharacter, UInt8.lt_iff_toNat_lt, h]

theorem beginCharacter_two {b : UInt8} (h : 0xC2 ≤ b.toNat) (h' : b.toNat < 0xE0) :
    beginCharacter b = ([], .continuation (b.toNat - 0xC0) 0x80 0xBF 0) := by
  have h1 : ¬ b.toNat < 0x80 := by omega
  have h2 : ¬ b.toNat < 0xC2 := by omega
  simp [beginCharacter, UInt8.lt_iff_toNat_lt, h1, h2, h']

theorem beginCharacter_three {b : UInt8} (h : 0xE0 ≤ b.toNat) (h' : b.toNat < 0xF0) :
    beginCharacter b = ([], .continuation (b.toNat - 0xE0) (if b = 0xE0 then 0xA0 else 0x80)
      (if b = 0xED then 0x9F else 0xBF) 1) := by
  have h1 : ¬ b.toNat < 0x80 := by omega
  have h2 : ¬ b.toNat < 0xC2 := by omega
  have h3 : ¬ b.toNat < 0xE0 := by omega
  simp [beginCharacter, UInt8.lt_iff_toNat_lt, h1, h2, h3, h']

theorem beginCharacter_four {b : UInt8} (h : 0xF0 ≤ b.toNat) (h' : b.toNat < 0xF5) :
    beginCharacter b = ([], .continuation (b.toNat - 0xF0) (if b = 0xF0 then 0x90 else 0x80)
      (if b = 0xF4 then 0x8F else 0xBF) 2) := by
  have h1 : ¬ b.toNat < 0x80 := by omega
  have h2 : ¬ b.toNat < 0xC2 := by omega
  have h3 : ¬ b.toNat < 0xE0 := by omega
  have h4 : ¬ b.toNat < 0xF0 := by omega
  simp [beginCharacter, UInt8.lt_iff_toNat_lt, h1, h2, h3, h4, h']

theorem beginCharacter_none {b : UInt8} (h : 0x80 ≤ b.toNat)
    (h' : b.toNat < 0xC2 ∨ 0xF5 ≤ b.toNat) :
    beginCharacter b = ([replacement], .character) := by
  have h1 : ¬ b.toNat < 0x80 := by omega
  rcases h' with h2 | h2
  · simp [beginCharacter, UInt8.lt_iff_toNat_lt, h1, h2]
  · have h3 : ¬ b.toNat < 0xC2 := by omega
    have h4 : ¬ b.toNat < 0xE0 := by omega
    have h5 : ¬ b.toNat < 0xF0 := by omega
    have h6 : ¬ b.toNat < 0xF5 := by omega
    simp [beginCharacter, UInt8.lt_iff_toNat_lt, h1, h3, h4, h5, h6]

/-! ## One character -/

theorem feed_two {a b : UInt8} (read : List Char) (ha : 0xC2 ≤ a.toNat) (ha' : a.toNat < 0xE0)
    (hb : 0x80 ≤ b.toNat) (hb' : b.toNat ≤ 0xBF) :
    [a, b].foldl Reading.feed ⟨read, .character⟩ =
      ⟨Char.ofNat ((a.toNat - 0xC0) * 64 + (b.toNat - 0x80)) :: read, .character⟩ := by
  simp only [List.foldl, feed_character, beginCharacter_two ha ha', List.reverse_nil,
    List.nil_append]
  exact feed_last read hb hb'

/-- The second byte is bounded more narrowly after E0 and ED: no long form, no surrogate. -/
theorem feed_three {a b c : UInt8} (read : List Char) (ha : 0xE0 ≤ a.toNat)
    (ha' : a.toNat < 0xF0) (hb : 0x80 ≤ b.toNat) (hb' : b.toNat ≤ 0xBF)
    (hlow : a.toNat = 0xE0 → 0xA0 ≤ b.toNat) (hhigh : a.toNat = 0xED → b.toNat ≤ 0x9F)
    (hc : 0x80 ≤ c.toNat) (hc' : c.toNat ≤ 0xBF) :
    [a, b, c].foldl Reading.feed ⟨read, .character⟩ =
      ⟨Char.ofNat (((a.toNat - 0xE0) * 64 + (b.toNat - 0x80)) * 64 + (c.toNat - 0x80)) :: read,
        .character⟩ := by
  simp only [List.foldl, feed_character, beginCharacter_three ha ha', List.reverse_nil,
    List.nil_append]
  rw [feed_more]
  · exact feed_last read hc hc'
  · split
    · next h => subst h; exact hlow rfl
    · exact hb
  · split
    · next h => subst h; exact hhigh rfl
    · exact hb'

/-- The second byte is bounded more narrowly after F0 and F4: no long form, none past U+10FFFF. -/
theorem feed_four {a b c d : UInt8} (read : List Char) (ha : 0xF0 ≤ a.toNat)
    (ha' : a.toNat < 0xF5) (hb : 0x80 ≤ b.toNat) (hb' : b.toNat ≤ 0xBF)
    (hlow : a.toNat = 0xF0 → 0x90 ≤ b.toNat) (hhigh : a.toNat = 0xF4 → b.toNat ≤ 0x8F)
    (hc : 0x80 ≤ c.toNat) (hc' : c.toNat ≤ 0xBF) (hd : 0x80 ≤ d.toNat) (hd' : d.toNat ≤ 0xBF) :
    [a, b, c, d].foldl Reading.feed ⟨read, .character⟩ =
      ⟨Char.ofNat ((((a.toNat - 0xF0) * 64 + (b.toNat - 0x80)) * 64 + (c.toNat - 0x80)) * 64 +
        (d.toNat - 0x80)) :: read, .character⟩ := by
  simp only [List.foldl, feed_character, beginCharacter_four ha ha', List.reverse_nil,
    List.nil_append]
  rw [feed_more]
  · rw [feed_more read (show (0x80 : UInt8).toNat ≤ c.toNat from hc)
      (show c.toNat ≤ (0xBF : UInt8).toNat from hc')]
    exact feed_last read hd hd'
  · split
    · next h => subst h; exact hlow rfl
    · exact hb
  · split
    · next h => subst h; exact hhigh rfl
    · exact hb'

theorem toNat_ofNat_of_lt {n : Nat} (h : n < 256) : (UInt8.ofNat n).toNat = n := by
  simp only [UInt8.toNat_ofNat']
  omega

theorem feed_utf8EncodeChar (c : Char) (read : List Char) :
    (String.utf8EncodeChar c).foldl Reading.feed ⟨read, .character⟩ = ⟨c :: read, .character⟩ := by
  have hvalid : c.val.toNat.isValidChar := c.valid
  have hchar : Char.ofNat c.val.toNat = c := Char.ofNat_toNat c
  simp only [Nat.isValidChar] at hvalid
  -- One case for each number of bytes; in each of them the bytes add up to the value again.
  fun_cases String.utf8EncodeChar c with
  | case1 v h =>
    have ha : (UInt8.ofNat v).toNat = v := toNat_ofNat_of_lt (by omega)
    simp only [List.foldl, feed_character, beginCharacter_one (b := UInt8.ofNat v) (by omega), ha]
    rw [hchar]
    rfl
  | case2 v h1 h2 =>
    have ha := toNat_ofNat_of_lt (n := v / 64 % 0x20 + 0xC0) (by omega)
    have hb := toNat_ofNat_of_lt (n := v % 0x40 + 0x80) (by omega)
    rw [feed_two read (by omega) (by omega) (by omega) (by omega), ha, hb]
    rw [show (v / 64 % 0x20 + 0xC0 - 0xC0) * 64 + (v % 0x40 + 0x80 - 0x80) = v by omega, hchar]
  | case3 v h1 h2 h3 =>
    have ha := toNat_ofNat_of_lt (n := v / 4096 % 0x10 + 0xE0) (by omega)
    have hb := toNat_ofNat_of_lt (n := v / 64 % 0x40 + 0x80) (by omega)
    have hc := toNat_ofNat_of_lt (n := v % 0x40 + 0x80) (by omega)
    rw [feed_three read (by omega) (by omega) (by omega) (by omega) (by omega) (by omega)
      (by omega) (by omega), ha, hb, hc]
    rw [show ((v / 4096 % 0x10 + 0xE0 - 0xE0) * 64 + (v / 64 % 0x40 + 0x80 - 0x80)) * 64 +
      (v % 0x40 + 0x80 - 0x80) = v by omega, hchar]
  | case4 v h1 h2 h3 =>
    have ha := toNat_ofNat_of_lt (n := v / 262144 % 0x08 + 0xF0) (by omega)
    have hb := toNat_ofNat_of_lt (n := v / 4096 % 0x40 + 0x80) (by omega)
    have hc := toNat_ofNat_of_lt (n := v / 64 % 0x40 + 0x80) (by omega)
    have hd := toNat_ofNat_of_lt (n := v % 0x40 + 0x80) (by omega)
    rw [feed_four read (by omega) (by omega) (by omega) (by omega) (by omega) (by omega)
      (by omega) (by omega) (by omega) (by omega), ha, hb, hc, hd]
    rw [show (((v / 262144 % 0x08 + 0xF0 - 0xF0) * 64 + (v / 4096 % 0x40 + 0x80 - 0x80)) * 64 +
      (v / 64 % 0x40 + 0x80 - 0x80)) * 64 + (v % 0x40 + 0x80 - 0x80) = v by omega, hchar]

/-! ## A text -/

@[simp] theorem encode_append (s t : String) : encode (s ++ t) = encode s ++ encode t := by
  simp [encode]

theorem encode_ofList (cs : List Char) :
    encode (String.ofList cs) = cs.flatMap String.utf8EncodeChar := by
  simp [encode]

/-- What has been read already only stands in front of what is read from here on. -/
theorem foldl_feed_read (bytes : Bytes) (read : List Char) (state : Expecting) :
    bytes.foldl Reading.feed ⟨read, state⟩ =
      ⟨(bytes.foldl Reading.feed ⟨[], state⟩).read ++ read,
        (bytes.foldl Reading.feed ⟨[], state⟩).expecting⟩ := by
  induction bytes generalizing read state with
  | nil => rfl
  | cons b bytes ih =>
    simp only [List.foldl, Reading.feed]
    rw [ih, ih ((state.step b).1.reverse ++ [])]
    simp only [List.append_nil, List.append_assoc]

theorem finish_append (read before : List Char) (state : Expecting) :
    (Reading.mk (read ++ before) state).finish =
      before.reverse ++ (Reading.mk read state).finish := by
  cases state <;> simp [Reading.finish]

theorem foldl_feed_encode (cs : List Char) (read : List Char) :
    (encode (String.ofList cs)).foldl Reading.feed ⟨read, .character⟩ =
      ⟨cs.reverse ++ read, .character⟩ := by
  rw [encode_ofList]
  induction cs generalizing read with
  | nil => rfl
  | cons c cs ih =>
    rw [List.flatMap_cons, List.foldl_append, feed_utf8EncodeChar, ih, List.reverse_cons,
      List.append_assoc]
    rfl

theorem decodeChars_encode_append (s : String) (rest : Bytes) :
    decodeChars (encode s ++ rest) = s.toList ++ decodeChars rest := by
  have hs : (encode s).foldl Reading.feed {} = ⟨s.toList.reverse ++ [], .character⟩ := by
    rw [← foldl_feed_encode, String.ofList_toList]
  unfold decodeChars
  rw [List.foldl_append, hs, List.append_nil, foldl_feed_read, finish_append, List.reverse_reverse]

@[simp] theorem decode_encode (s : String) : decode (encode s) = s := by
  have h := decodeChars_encode_append s []
  rw [List.append_nil, show decodeChars [] = [] from rfl, List.append_nil] at h
  rw [decode, h, String.ofList_toList]

theorem encode_decode_iff {bytes : Bytes} :
    encode (decode bytes) = bytes ↔ ∃ text, bytes = encode text := by
  constructor
  · intro h
    exact ⟨decode bytes, h.symm⟩
  · rintro ⟨text, rfl⟩
    rw [decode_encode]

/-! ## Boundaries -/

/-- An offset between two characters of a source that is a text, or at one of its ends. -/
def Boundary (source : Bytes) (offset : Nat) : Prop :=
  ∃ before after : String, source = encode before ++ encode after ∧ (encode before).length = offset

/-- At a boundary both parts of the source are read and written without a change. -/
theorem boundary_iff {source : Bytes} {offset : Nat} :
    Boundary source offset ↔ offset ≤ source.length ∧
      encode (decode (source.take offset)) = source.take offset ∧
      encode (decode (source.drop offset)) = source.drop offset := by
  constructor
  · rintro ⟨before, after, rfl, rfl⟩
    refine ⟨by rw [List.length_append]; omega, ?_, ?_⟩
    · rw [List.take_left, decode_encode]
    · rw [List.drop_left, decode_encode]
  · rintro ⟨hle, hbefore, hafter⟩
    refine ⟨decode (source.take offset), decode (source.drop offset), ?_, ?_⟩
    · rw [hbefore, hafter, List.take_append_drop]
    · rw [hbefore, List.length_take, Nat.min_eq_left hle]

instance (source : Bytes) (offset : Nat) : Decidable (Boundary source offset) :=
  decidable_of_iff _ boundary_iff.symm

theorem Boundary.le_length {source : Bytes} {offset : Nat} (h : Boundary source offset) :
    offset ≤ source.length := (boundary_iff.mp h).1

/-- The bytes behind a text that together with it are a text are one themselves. -/
theorem encode_decode_of_append {s t : String} {rest : Bytes} (h : encode s ++ rest = encode t) :
    encode (decode rest) = rest := by
  have hread : s.toList ++ decodeChars rest = t.toList := by
    rw [← decodeChars_encode_append, h, ← List.append_nil (encode t), decodeChars_encode_append]
    exact List.append_nil _
  -- What is read of the rest makes up `t` behind `s`, so writing it gives the rest back.
  have hwritten : encode t = encode s ++ encode (decode rest) := by
    rw [← encode_append, decode, ← String.ofList_toList (s := t), ← hread, String.ofList_append,
      String.ofList_toList]
  exact List.append_cancel_left (hwritten.symm.trans h.symm)

theorem encode_decode_between {source : Bytes} {start stop : Nat} (hstart : Boundary source start)
    (hstop : Boundary source stop) (h : start ≤ stop) :
    encode (decode (between source start stop)) = between source start stop := by
  obtain ⟨a, b, hab, rfl⟩ := hstart
  obtain ⟨c, d, hcd, rfl⟩ := hstop
  have htake : source.take (encode c).length = encode c := by
    rw [hcd, List.take_left]
  have hfront : (encode c).take (encode a).length = encode a := by
    rw [← htake, List.take_take, Nat.min_eq_left h, hab, List.take_left]
  apply encode_decode_of_append (s := a) (t := c)
  rw [between, htake]
  calc encode a ++ (encode c).drop (encode a).length
    _ = (encode c).take (encode a).length ++ (encode c).drop (encode a).length := by rw [hfront]
    _ = encode c := List.take_append_drop _ _

end TruncIdiom.Text
