import TruncIdiom.Proofs.Text.Position
import TruncIdiom.Text.Lines

/-!
The lines of a text are the lines that positions count.

A text falls into the lines that have ended and a line that has not (`Cut`), in one pass from its
front. `linesOf` gives just these, and the position behind a text counts them: so a position and the
lines together give back everything in front of it (`encode_upTo`), and two places between
characters never have one position.
-/

namespace TruncIdiom.Text

/-! ## Where a text is cut -/

/-- A line with its newline at the end and no other. -/
def Ended (line : List Char) : Prop := ∃ body, '\n' ∉ body ∧ line = body ++ ['\n']

/-- A text as lines that have ended, and one behind them that has not. -/
structure Cut (cs : List Char) (front : List (List Char)) (tail : List Char) : Prop where
  joined : front.flatten ++ tail = cs
  ended : ∀ line ∈ front, Ended line
  unended : '\n' ∉ tail

theorem Ended.cons {c : Char} {line : List Char} (hc : c ≠ '\n') (h : Ended line) :
    Ended (c :: line) := by
  obtain ⟨body, hbody, rfl⟩ := h
  exact ⟨c :: body, List.not_mem_cons_of_ne_of_not_mem hc.symm hbody, rfl⟩

theorem exists_cut (cs : List Char) : ∃ front tail, Cut cs front tail := by
  induction cs with
  | nil => exact ⟨[], [], rfl, by simp, by simp⟩
  | cons c cs ih =>
    obtain ⟨front, tail, hcut⟩ := ih
    by_cases hc : c = '\n'
    · refine ⟨[c] :: front, tail, ?_, ?_, hcut.unended⟩
      · simp [hcut.joined]
      · intro line hline
        rcases List.mem_cons.mp hline with rfl | hline
        · exact ⟨[], by simp, by rw [hc]; rfl⟩
        · exact hcut.ended line hline
    · -- The character belongs to the first line, which has ended or has not.
      cases front with
      | nil =>
        have hjoined := hcut.joined
        refine ⟨[], c :: tail, by simpa using hjoined, by simp, ?_⟩
        exact List.not_mem_cons_of_ne_of_not_mem (Ne.symm hc) hcut.unended
      | cons first front =>
        have hjoined := hcut.joined
        refine ⟨(c :: first) :: front, tail, by simpa using hjoined, ?_, hcut.unended⟩
        intro line hline
        rcases List.mem_cons.mp hline with rfl | hline
        · exact (hcut.ended first List.mem_cons_self).cons hc
        · exact hcut.ended line (List.mem_cons_of_mem _ hline)

/-! ## The lines of characters -/

theorem charLines_cons {c : Char} (hc : c ≠ '\n') (cs : List Char) :
    charLines (c :: cs) = (c :: (charLines cs).headD []) :: (charLines cs).tail := by
  rw [charLines, if_neg hc]
  cases charLines cs <;> rfl

theorem charLines_ended_append {line : List Char} (h : Ended line) (rest : List Char) :
    charLines (line ++ rest) = line :: charLines rest := by
  obtain ⟨body, hbody, rfl⟩ := h
  induction body with
  | nil => simp [charLines]
  | cons c body ih =>
    have hc : c ≠ '\n' := fun heq => hbody (heq ▸ List.mem_cons_self)
    have hline := ih fun hmem => hbody (List.mem_cons_of_mem _ hmem)
    rw [List.cons_append, List.cons_append, charLines_cons hc, hline]
    rfl

theorem charLines_flatten_append {front : List (List Char)} (h : ∀ line ∈ front, Ended line)
    (rest : List Char) : charLines (front.flatten ++ rest) = front ++ charLines rest := by
  induction front with
  | nil => rfl
  | cons line front ih =>
    rw [List.flatten_cons, List.append_assoc,
      charLines_ended_append (h line List.mem_cons_self),
      ih fun other hother => h other (List.mem_cons_of_mem _ hother), List.cons_append]

theorem charLines_unended_append {tail : List Char} (h : '\n' ∉ tail) (hne : tail ≠ [])
    (rest : List Char) :
    charLines (tail ++ rest) =
      (tail ++ (charLines rest).headD []) :: (charLines rest).tail := by
  induction tail with
  | nil => exact absurd rfl hne
  | cons c tail ih =>
    have hc : c ≠ '\n' := fun heq => h (heq ▸ List.mem_cons_self)
    rw [List.cons_append, charLines_cons hc]
    cases tail with
    | nil => rfl
    | cons d tail =>
      rw [ih (fun hmem => h (List.mem_cons_of_mem _ hmem)) (List.cons_ne_nil _ _)]
      rfl

theorem exists_charLines_cons (c : Char) (cs : List Char) :
    ∃ part lines, charLines (c :: cs) = (c :: part) :: lines := by
  by_cases hc : c = '\n'
  · exact ⟨[], charLines cs, by rw [charLines, if_pos hc]⟩
  · exact ⟨_, _, charLines_cons hc cs⟩

section
variable {cs : List Char} {front : List (List Char)} {tail : List Char}

theorem Cut.charLines_append (h : Cut cs front tail) (rest : List Char) :
    charLines (cs ++ rest) = front ++ charLines (tail ++ rest) := by
  rw [← h.joined, List.append_assoc, charLines_flatten_append h.ended]

theorem Cut.charLines_eq (h : Cut cs front tail) :
    charLines cs = front ++ if tail = [] then [] else [tail] := by
  have hlines := h.charLines_append []
  rw [List.append_nil, List.append_nil] at hlines
  rw [hlines]
  congr 1
  split
  · next hempty => rw [hempty]; rfl
  · next hne =>
    have htail := charLines_unended_append h.unended hne []
    rw [List.append_nil] at htail
    rw [htail]
    simp [charLines]

theorem flatten_charLines (cs : List Char) : (charLines cs).flatten = cs := by
  obtain ⟨front, tail, hcut⟩ := exists_cut cs
  rw [hcut.charLines_eq, List.flatten_append]
  split
  · next hempty =>
    rw [List.flatten_nil, ← hempty]
    exact hcut.joined
  · rw [List.flatten_singleton]
    exact hcut.joined

/-- What stands on the line of a place in front of it. -/
theorem Cut.take_line (h : Cut cs front tail) (rest : List Char) :
    ((charLines (cs ++ rest))[front.length]?.getD []).take tail.length = tail := by
  rw [h.charLines_append, List.getElem?_append_right (Nat.le_refl _), Nat.sub_self]
  by_cases hne : tail = []
  · rw [hne]
    rfl
  · rw [charLines_unended_append h.unended hne]
    simp

/-! ## Newlines among bytes -/

theorem count_newline_utf8EncodeChar (c : Char) :
    (String.utf8EncodeChar c).count newline = if c = '\n' then 1 else 0 := by
  have hval : c = '\n' ↔ c.val.toNat = 10 := by
    rw [← Char.toNat_inj]
    rfl
  have hvalid : c.val.toNat.isValidChar := c.valid
  simp only [Nat.isValidChar] at hvalid
  have hbyte : ∀ n : Nat, n < 256 → (UInt8.ofNat n = newline ↔ n = 10) := by
    intro n hn
    rw [← UInt8.toNat_inj, toNat_ofNat_of_lt hn]
    rfl
  -- Only a character of one byte has a byte below 80.
  fun_cases String.utf8EncodeChar c with
  | case1 v h =>
    have h1 := hbyte v (by omega)
    by_cases hv : v = 10
    · rw [if_pos (hval.mpr hv), List.count_singleton, h1.mpr hv]
      rfl
    · have hne : UInt8.ofNat v ≠ newline := fun heq => hv (h1.mp heq)
      rw [if_neg (fun heq => hv (hval.mp heq)), List.count_singleton, if_neg (by simpa using hne)]
  | case2 v h1 h2 =>
    have ha := hbyte (v / 64 % 0x20 + 0xC0) (by omega)
    have hb := hbyte (v % 0x40 + 0x80) (by omega)
    rw [if_neg (by rw [hval]; omega), List.count_eq_zero]
    simp only [List.mem_cons, List.not_mem_nil, or_false, eq_comm (a := newline), ha, hb]
    omega
  | case3 v h1 h2 h3 =>
    have ha := hbyte (v / 4096 % 0x10 + 0xE0) (by omega)
    have hb := hbyte (v / 64 % 0x40 + 0x80) (by omega)
    have hc := hbyte (v % 0x40 + 0x80) (by omega)
    rw [if_neg (by rw [hval]; omega), List.count_eq_zero]
    simp only [List.mem_cons, List.not_mem_nil, or_false, eq_comm (a := newline), ha, hb, hc]
    omega
  | case4 v h1 h2 h3 =>
    have ha := hbyte (v / 262144 % 0x08 + 0xF0) (by omega)
    have hb := hbyte (v / 4096 % 0x40 + 0x80) (by omega)
    have hc := hbyte (v / 64 % 0x40 + 0x80) (by omega)
    have hd := hbyte (v % 0x40 + 0x80) (by omega)
    rw [if_neg (by rw [hval]; omega), List.count_eq_zero]
    simp only [List.mem_cons, List.not_mem_nil, or_false, eq_comm (a := newline), ha, hb, hc, hd]
    omega

theorem count_newline_encode (cs : List Char) :
    (encode (String.ofList cs)).count newline = cs.count '\n' := by
  rw [encode_ofList]
  induction cs with
  | nil => rfl
  | cons c cs ih =>
    rw [List.flatMap_cons, List.count_append, ih, count_newline_utf8EncodeChar, List.count_cons]
    simp only [beq_iff_eq]
    omega

theorem newline_notMem_encode {cs : List Char} (h : '\n' ∉ cs) :
    newline ∉ encode (String.ofList cs) := by
  rw [← List.count_eq_zero, count_newline_encode, List.count_eq_zero]
  exact h

theorem lastLine_append_of_notMem {bytes : Bytes} (front : Bytes) (h : newline ∉ bytes) :
    lastLine (front ++ bytes) = lastLine front ++ bytes := by
  have hall : ∀ b ∈ bytes.reverse, decide (b ≠ newline) = true := by
    intro b hb
    have hne : b ≠ newline := fun heq => h (heq ▸ List.mem_reverse.mp hb)
    exact decide_eq_true hne
  rw [lastLine, List.reverse_append, List.takeWhile_append_of_pos hall, List.reverse_append,
    List.reverse_reverse, lastLine]

theorem lastLine_append_newline (front : Bytes) : lastLine (front ++ [newline]) = [] := by
  simp [lastLine]

/-! ## The position behind a text -/

theorem count_newline_ended {line : List Char} (h : Ended line) : line.count '\n' = 1 := by
  obtain ⟨body, hbody, rfl⟩ := h
  rw [List.count_append, List.count_eq_zero.mpr hbody]
  rfl

theorem Cut.count_newline (h : Cut cs front tail) : cs.count '\n' = front.length := by
  have hfront : ∀ front : List (List Char), (∀ line ∈ front, Ended line) →
      front.flatten.count '\n' = front.length := by
    intro front hended
    induction front with
    | nil => rfl
    | cons line front ih =>
      rw [List.flatten_cons, List.count_append,
        count_newline_ended (hended line List.mem_cons_self),
        ih fun other hother => hended other (List.mem_cons_of_mem _ hother), List.length_cons]
      omega
  rw [← h.joined, List.count_append, hfront front h.ended, List.count_eq_zero.mpr h.unended]
  rfl

theorem Cut.lastLine_encode (h : Cut cs front tail) :
    lastLine (encode (String.ofList cs)) = encode (String.ofList tail) := by
  have htail := newline_notMem_encode h.unended
  rw [← h.joined]
  rw [String.ofList_append, encode_append, lastLine_append_of_notMem _ htail]
  suffices hempty : lastLine (encode (String.ofList front.flatten)) = [] by
    rw [hempty, List.nil_append]
  cases hfront : front.getLast? with
  | none =>
    rw [List.getLast?_eq_none_iff.mp hfront]
    rfl
  | some line =>
    obtain ⟨lines, rfl⟩ := List.getLast?_eq_some_iff.mp hfront
    obtain ⟨body, -, rfl⟩ := h.ended line (List.mem_append_right _ List.mem_cons_self)
    have hjoined : (lines ++ [body ++ ['\n']]).flatten = (lines.flatten ++ body) ++ ['\n'] := by
      simp
    rw [hjoined, String.ofList_append, encode_append]
    exact lastLine_append_newline _

/-- The position behind a text counts its lines, and the characters of the last. -/
theorem Cut.after (h : Cut cs front tail) :
    Position.after (encode (String.ofList cs)) = ⟨front.length + 1, tail.length + 1⟩ := by
  have hlast : decodeChars (lastLine (encode (String.ofList cs))) = tail := by
    have hread := decodeChars_encode_append (String.ofList tail) []
    rw [List.append_nil, String.toList_ofList, show decodeChars [] = [] from rfl,
      List.append_nil] at hread
    rw [h.lastLine_encode, hread]
  rw [Position.after, count_newline_encode, h.count_newline, hlast]

end

/-! ## The lines of a text -/

/-- Lines that join to a text, all but the last with a newline at their end, and none with
another. -/
structure Lined (text : String) (lines : List String) : Prop where
  joined : String.join lines = text
  ended : ∀ i line, lines[i]? = some line → i + 1 < lines.length → Ended line.toList
  last : ∀ line, lines.getLast? = some line →
    Ended line.toList ∨ '\n' ∉ line.toList ∧ line ≠ ""

/-- The number of lines of a source: one for each newline, and one for what stands behind the
last. -/
def lineCount (source : Bytes) : Nat :=
  source.count newline + if lastLine source = [] then 0 else 1

def upTo (lines : List String) (p : Position) : String :=
  String.join (lines.take (p.line - 1)) ++
    String.ofList ((lines[p.line - 1]?.getD "").toList.take (p.column - 1))

/-- A position that stands on a character of one of the lines, with some bytes in front of it. -/
structure Pinpoints (lines : List String) (p : Position) (front : Bytes) : Prop where
  line_pos : 1 ≤ p.line
  line_le : p.line ≤ lines.length
  column_pos : 1 ≤ p.column
  column_le : ∀ line, lines[p.line - 1]? = some line → p.column ≤ line.toList.length
  encode_upTo : encode (upTo lines p) = front

theorem join_map_ofList (lines : List (List Char)) :
    String.join (lines.map String.ofList) = String.ofList lines.flatten := by
  rw [← String.toList_inj, String.toList_join, String.toList_ofList, List.flatMap_map,
    List.flatMap_def]
  simp

theorem lined_linesOf (text : String) : Lined text (linesOf text) := by
  obtain ⟨front, tail, hcut⟩ := exists_cut text.toList
  have hlines : linesOf text = (front ++ if tail = [] then [] else [tail]).map String.ofList := by
    rw [linesOf, hcut.charLines_eq]
  refine ⟨?_, ?_, ?_⟩
  · rw [linesOf, join_map_ofList, flatten_charLines, String.ofList_toList]
  · intro i line hline hlt
    have hlength : (front ++ if tail = [] then [] else [tail]).length ≤ front.length + 1 := by
      split <;> simp
    rw [hlines, List.length_map] at hlt
    rw [hlines, List.getElem?_map, List.getElem?_append_left (by omega)] at hline
    obtain ⟨chars, hchars, rfl⟩ := Option.map_eq_some_iff.mp hline
    rw [String.toList_ofList]
    exact hcut.ended chars (List.mem_of_getElem? hchars)
  · intro line hline
    rw [hlines, List.getLast?_map] at hline
    obtain ⟨chars, hchars, rfl⟩ := Option.map_eq_some_iff.mp hline
    rw [String.toList_ofList]
    by_cases hempty : tail = []
    · rw [if_pos hempty, List.append_nil] at hchars
      exact .inl (hcut.ended chars (List.mem_of_getLast? hchars))
    · rw [if_neg hempty, List.getLast?_concat, Option.some.injEq] at hchars
      subst hchars
      refine .inr ⟨hcut.unended, ?_⟩
      intro heq
      exact hempty (String.ofList_inj.mp heq)

theorem ended_or_of_mem_linesOf {text line : String} (h : line ∈ linesOf text) :
    Ended line.toList ∨ '\n' ∉ line.toList := by
  have hlined := lined_linesOf text
  obtain ⟨i, hi⟩ := List.mem_iff_getElem?.mp h
  by_cases hlt : i + 1 < (linesOf text).length
  · exact .inl (hlined.ended i line hi hlt)
  · obtain ⟨hbound, -⟩ := List.getElem?_eq_some_iff.mp hi
    have hlast : (linesOf text).getLast? = some line := by
      rw [List.getLast?_eq_getElem?, ← hi]
      congr 1
      omega
    exact (hlined.last line hlast).imp_right And.left

theorem linesOf_join {lines : List String} (h : ∀ line ∈ lines, Ended line.toList) :
    linesOf (String.join lines) = lines := by
  have hended : ∀ chars ∈ lines.map String.toList, Ended chars := by
    intro chars hchars
    obtain ⟨line, hline, rfl⟩ := List.mem_map.mp hchars
    exact h line hline
  have hlines := charLines_flatten_append hended []
  have hback : (lines.map String.toList).map String.ofList = lines := by simp
  rw [List.append_nil, show charLines [] = [] from rfl, List.append_nil] at hlines
  rw [linesOf, String.toList_join, List.flatMap_def, hlines, hback]

theorem length_linesOf (text : String) : (linesOf text).length = lineCount (encode text) := by
  obtain ⟨front, tail, hcut⟩ := exists_cut text.toList
  have hlast := hcut.lastLine_encode
  have hcount := count_newline_encode text.toList
  rw [String.ofList_toList] at hlast hcount
  have hempty : encode (String.ofList tail) = [] ↔ tail = [] := by
    constructor
    · intro h
      have hread := congrArg decode h
      rw [decode_encode] at hread
      exact String.ofList_inj.mp hread
    · rintro rfl
      rfl
  rw [lineCount, hcount, hcut.count_newline, hlast, linesOf, hcut.charLines_eq, List.length_map,
    List.length_append]
  simp only [hempty]
  split <;> rfl

/-- Bytes behind others stand on a line that the newlines in front of them count. -/
theorem lt_lineCount_append (front : Bytes) {back : Bytes} (hne : back ≠ []) :
    front.count newline < lineCount (front ++ back) := by
  rw [lineCount, List.count_append]
  by_cases hback : newline ∈ back
  · have hpos := List.count_pos_iff.mpr hback
    omega
  · have hlast : lastLine (front ++ back) ≠ [] := by
      rw [lastLine_append_of_notMem front hback]
      exact List.append_ne_nil_of_right_ne_nil _ hne
    rw [if_neg hlast]
    omega

/-! ## Positions and lines -/

theorem upTo_map_ofList (lines : List (List Char)) (p : Position) :
    upTo (lines.map String.ofList) p = String.ofList
      ((lines.take (p.line - 1)).flatten ++ (lines[p.line - 1]?.getD []).take (p.column - 1)) := by
  rw [upTo, ← List.map_take, join_map_ofList, List.getElem?_map, String.ofList_append]
  cases lines[p.line - 1]? with
  | none => rfl
  | some line => simp

section
variable {source : Bytes} {offset : Nat}

/-- Where a text is cut between two characters, the lines of the whole and the position behind the
first part give the first part. -/
theorem upTo_linesOf_append (front back : String) :
    upTo (linesOf (front ++ back)) (.after (encode front)) = front := by
  obtain ⟨lines, tail, hcut⟩ := exists_cut front.toList
  have hposition := hcut.after
  have hlines := hcut.charLines_append back.toList
  have hline := hcut.take_line back.toList
  rw [String.ofList_toList] at hposition
  rw [hposition, linesOf, String.toList_append, upTo_map_ofList, Nat.add_sub_cancel,
    Nat.add_sub_cancel, hline, hlines, List.take_left, hcut.joined, String.ofList_toList]

/-- In front of more text, the position behind a text stands on a line and on a character of it. -/
theorem after_in_linesOf_append (front : String) {back : String} (hne : back ≠ "") :
    ∃ line, (linesOf (front ++ back))[(Position.after (encode front)).line - 1]? = some line ∧
      (Position.after (encode front)).column ≤ line.toList.length := by
  obtain ⟨lines, tail, hcut⟩ := exists_cut front.toList
  have hposition := hcut.after
  have hlines := hcut.charLines_append back.toList
  rw [String.ofList_toList] at hposition
  have hback : back.toList ≠ [] := fun heq => hne (String.toList_inj.mp heq)
  obtain ⟨c, cs, hcs⟩ := List.exists_cons_of_ne_nil hback
  obtain ⟨part, rest, hpart⟩ := exists_charLines_cons c cs
  have hline : charLines (tail ++ c :: cs) = (tail ++ c :: part) :: rest := by
    by_cases htail : tail = []
    · rw [htail]
      exact hpart
    · rw [charLines_unended_append hcut.unended htail, hpart]
      rfl
  rw [hcs, hline] at hlines
  refine ⟨String.ofList (tail ++ c :: part), ?_, ?_⟩
  · rw [hposition, linesOf, String.toList_append, hcs, hlines, Nat.add_sub_cancel,
      List.getElem?_map, List.getElem?_append_right (Nat.le_refl _), Nat.sub_self]
    rfl
  · rw [hposition, String.toList_ofList, List.length_append, List.length_cons]
    show tail.length + 1 ≤ tail.length + (part.length + 1)
    omega

/-- At a boundary, the text in front of a position is the source in front of the offset. -/
theorem encode_upTo (h : Boundary source offset) :
    encode (upTo (linesOf (decode source)) (.ofOffset source offset)) = source.take offset := by
  obtain ⟨front, back, rfl, rfl⟩ := h
  rw [ofOffset_natCast, ← encode_append, decode_encode, encode_append, List.take_left,
    upTo_linesOf_append]

theorem pinpoints_ofOffset (h : Boundary source offset) (hlt : offset < source.length) :
    Pinpoints (linesOf (decode source)) (.ofOffset source offset) (source.take offset) := by
  have hupTo := encode_upTo h
  obtain ⟨front, back, rfl, rfl⟩ := h
  have hback : back ≠ "" := by
    rintro rfl
    rw [List.length_append] at hlt
    exact Nat.lt_irrefl _ hlt
  obtain ⟨line, hline, hcolumn⟩ := after_in_linesOf_append front hback
  rw [ofOffset_natCast, ← encode_append, decode_encode, encode_append, List.take_left] at hupTo ⊢
  obtain ⟨hlt, -⟩ := List.getElem?_eq_some_iff.mp hline
  refine ⟨?_, ?_, ?_, ?_, hupTo⟩
  · exact Nat.succ_pos _
  · omega
  · exact Nat.succ_pos _
  · intro other hother
    rw [hline] at hother
    cases hother
    exact hcolumn

theorem ofOffset_injective {a b : Nat} (ha : Boundary source a) (hb : Boundary source b)
    (h : Position.ofOffset source a = .ofOffset source b) : a = b := by
  have htake : source.take a = source.take b := by
    calc source.take a
      _ = encode (upTo (linesOf (decode source)) (.ofOffset source a)) := (encode_upTo ha).symm
      _ = encode (upTo (linesOf (decode source)) (.ofOffset source b)) := by rw [h]
      _ = source.take b := encode_upTo hb
  have hlength := congrArg List.length htake
  rw [List.length_take, List.length_take, Nat.min_eq_left ha.le_length,
    Nat.min_eq_left hb.le_length] at hlength
  exact hlength

end

end TruncIdiom.Text
