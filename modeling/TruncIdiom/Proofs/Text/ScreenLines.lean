import TruncIdiom.Proofs.Text.Lines

/-!
The lines on screen against the lines that positions count.

A newline ends both, so the screen lines of a text are those of its lines, one line after the other
(`screenLines_eq_flatMap`), and every line has one at least. A line is `Plain` when it has just one.
So the two have the same numbers as far as the lines are plain, and behind a line that is not, a
screen line with a number belongs to a line further up (`onScreen_of_getElem?`).
-/

namespace TruncIdiom.Text

/-! ## Screen lines of characters -/

theorem charScreenLines_carriageReturn (rest : List Char) :
    charScreenLines ('\r' :: '\n' :: rest) = [] :: charScreenLines rest := rfl

theorem charScreenLines_boundary {c : Char} {rest : List Char} (hc : isScreenBoundary c = true)
    (hnext : c = '\r' → rest.head? ≠ some '\n') :
    charScreenLines (c :: rest) = [] :: charScreenLines rest := by
  generalize hcs : c :: rest = cs
  fun_cases charScreenLines cs with
  | case1 => cases hcs
  | case2 more =>
    obtain ⟨rfl, rfl⟩ := List.cons.inj hcs
    exact absurd rfl (hnext rfl)
  | case3 d more _ _ =>
    obtain ⟨rfl, rfl⟩ := List.cons.inj hcs
    rfl
  | case4 d more _ hd _ =>
    obtain ⟨rfl, rfl⟩ := List.cons.inj hcs
    exact absurd hc hd
  | case5 d more _ hd _ _ _ =>
    obtain ⟨rfl, rfl⟩ := List.cons.inj hcs
    exact absurd hc hd

theorem charScreenLines_other {c : Char} (hc : isScreenBoundary c = false) (rest : List Char) :
    charScreenLines (c :: rest) =
      (c :: (charScreenLines rest).headD []) :: (charScreenLines rest).tail := by
  generalize hcs : c :: rest = cs
  fun_cases charScreenLines cs with
  | case1 => cases hcs
  | case2 more =>
    obtain ⟨rfl, rfl⟩ := List.cons.inj hcs
    cases hc
  | case3 d more _ hd =>
    obtain ⟨rfl, rfl⟩ := List.cons.inj hcs
    rw [hc] at hd
    cases hd
  | case4 d more _ _ hlines =>
    obtain ⟨rfl, rfl⟩ := List.cons.inj hcs
    rw [hlines]
    rfl
  | case5 d more _ _ line lines hlines =>
    obtain ⟨rfl, rfl⟩ := List.cons.inj hcs
    rw [hlines]
    rfl

theorem charScreenLines_newline (rest : List Char) :
    charScreenLines ('\n' :: rest) = [] :: charScreenLines rest := by
  refine charScreenLines_boundary rfl ?_
  intro heq
  cases heq

theorem charScreenLines_ne_nil {cs : List Char} (h : cs ≠ []) : charScreenLines cs ≠ [] := by
  fun_cases charScreenLines cs with
  | case1 => exact absurd rfl h
  | case2 | case3 | case4 | case5 => exact List.cons_ne_nil _ _

/-- Behind a line that has ended the screen lines begin again. -/
theorem charScreenLines_ended_append {line : List Char} (h : Ended line) (rest : List Char) :
    charScreenLines (line ++ rest) = charScreenLines line ++ charScreenLines rest := by
  obtain ⟨body, hbody, rfl⟩ := h
  induction body with
  | nil => exact charScreenLines_newline rest
  | cons c body ih =>
    have hline := ih fun hmem => hbody (List.mem_cons_of_mem _ hmem)
    simp only [List.cons_append]
    cases hc : isScreenBoundary c with
    | false =>
      have hne : charScreenLines (body ++ ['\n']) ≠ [] := charScreenLines_ne_nil (by simp)
      rw [charScreenLines_other hc, charScreenLines_other hc, hline]
      cases hlines : charScreenLines (body ++ ['\n']) with
      | nil => exact absurd hlines hne
      | cons first more => rfl
    | true =>
      cases body with
      | nil =>
        by_cases hcarriage : c = '\r'
        · subst hcarriage
          exact charScreenLines_carriageReturn rest
        · rw [charScreenLines_boundary hc (fun heq => absurd heq hcarriage),
            charScreenLines_boundary hc (fun heq => absurd heq hcarriage), hline]
          rfl
      | cons d body =>
        have hd : d ≠ '\n' := by
          rintro rfl
          exact hbody (by simp)
        rw [charScreenLines_boundary hc (by simp [hd]), charScreenLines_boundary hc (by simp [hd]),
          hline]
        rfl

theorem charScreenLines_flatten_append {front : List (List Char)}
    (h : ∀ line ∈ front, Ended line) (rest : List Char) :
    charScreenLines (front.flatten ++ rest) =
      front.flatMap charScreenLines ++ charScreenLines rest := by
  induction front with
  | nil => rfl
  | cons line front ih =>
    rw [List.flatten_cons, List.append_assoc,
      charScreenLines_ended_append (h line List.mem_cons_self),
      ih fun other hother => h other (List.mem_cons_of_mem _ hother), List.flatMap_cons,
      List.append_assoc]

theorem charScreenLines_eq_flatMap (cs : List Char) :
    charScreenLines cs = (charLines cs).flatMap charScreenLines := by
  obtain ⟨front, tail, hcut⟩ := exists_cut cs
  have hwhole := charScreenLines_flatten_append hcut.ended tail
  rw [hcut.joined] at hwhole
  rw [hwhole, hcut.charLines_eq, List.flatMap_append]
  congr 1
  split
  · next hempty => rw [hempty]; rfl
  · rw [List.flatMap_singleton]

/-! ## Plain lines -/

/-- A line in which nothing bounds a line on screen but the newline at its end, with a carriage
return in front of it or without. -/
def Plain (line : List Char) : Prop :=
  ∃ body, (∀ c ∈ body, isScreenBoundary c = false) ∧
    (line = body ∨ line = body ++ ['\n'] ∨ line = body ++ ['\r', '\n'])

theorem charScreenLines_append {body : List Char} (h : ∀ c ∈ body, isScreenBoundary c = false)
    {rest first : List Char} {more : List (List Char)} (hrest : charScreenLines rest = first :: more) :
    charScreenLines (body ++ rest) = (body ++ first) :: more := by
  induction body with
  | nil => exact hrest
  | cons c body ih =>
    rw [List.cons_append, charScreenLines_other (h c List.mem_cons_self),
      ih fun d hd => h d (List.mem_cons_of_mem _ hd)]
    rfl

theorem charScreenLines_body {body : List Char} (h : ∀ c ∈ body, isScreenBoundary c = false)
    (hne : body ≠ []) : charScreenLines body = [body] := by
  induction body with
  | nil => exact absurd rfl hne
  | cons c body ih =>
    rw [charScreenLines_other (h c List.mem_cons_self)]
    cases body with
    | nil => rfl
    | cons d body =>
      rw [ih (fun e he => h e (List.mem_cons_of_mem _ he)) (List.cons_ne_nil _ _)]
      rfl

theorem withoutLineEnd_append {body ending : List Char}
    (hbody : ∀ c ∈ body, isScreenBoundary c = false) (hending : ∀ c ∈ ending, c = '\r' ∨ c = '\n') :
    withoutLineEnd (String.ofList (body ++ ending)) = String.ofList body := by
  have hall : ∀ c ∈ ending.reverse, (decide (c = '\r') || decide (c = '\n')) = true := by
    intro c hc
    simpa using hending c (List.mem_reverse.mp hc)
  have hstop : body.reverse.dropWhile (fun c => decide (c = '\r') || decide (c = '\n')) =
      body.reverse := by
    cases hreverse : body.reverse with
    | nil => rfl
    | cons c rest =>
      have hc := hbody c (List.mem_reverse.mp (hreverse ▸ List.mem_cons_self))
      rw [List.dropWhile_cons_of_neg]
      simp only [Bool.or_eq_true, decide_eq_true_eq]
      rintro (rfl | rfl) <;> cases hc
  rw [withoutLineEnd, String.toList_ofList, List.reverse_append, List.dropWhile_append_of_pos hall,
    hstop, List.reverse_reverse]

theorem screenLines_of_plain {line : String} (h : Plain line.toList) (hne : line ≠ "") :
    screenLines line = [withoutLineEnd line] := by
  obtain ⟨body, hbody, hline⟩ := h
  have hof : line = String.ofList line.toList := String.ofList_toList.symm
  rw [hof, screenLines, String.toList_ofList]
  rcases hline with hline | hline | hline
  · have hbare : withoutLineEnd (String.ofList (body ++ [])) = String.ofList body :=
      withoutLineEnd_append hbody (by simp)
    rw [List.append_nil] at hbare
    have hbody' : body ≠ [] := by
      rintro rfl
      exact hne (String.toList_inj.mp hline)
    rw [hline, charScreenLines_body hbody hbody', hbare]
    rfl
  · rw [hline, charScreenLines_append hbody (charScreenLines_newline []),
      withoutLineEnd_append hbody (by simp), List.append_nil]
    rfl
  · rw [hline, charScreenLines_append hbody (charScreenLines_carriageReturn []),
      withoutLineEnd_append hbody (by simp), List.append_nil]
    rfl

theorem plain_of_length_one {line : List Char} (h : Ended line)
    (hone : (charScreenLines line).length = 1) : Plain line := by
  obtain ⟨body, hbody, rfl⟩ := h
  induction body with
  | nil => exact ⟨[], by simp, .inr (.inl rfl)⟩
  | cons c body ih =>
    have hne : charScreenLines (body ++ ['\n']) ≠ [] := charScreenLines_ne_nil (by simp)
    have hrest : '\n' ∉ body := fun hmem => hbody (List.mem_cons_of_mem _ hmem)
    rw [List.cons_append] at hone ⊢
    cases hc : isScreenBoundary c with
    | false =>
      have hlength : (charScreenLines (body ++ ['\n'])).length = 1 := by
        rw [charScreenLines_other hc] at hone
        cases hlines : charScreenLines (body ++ ['\n']) with
        | nil => exact absurd hlines hne
        | cons first more => rwa [hlines] at hone
      obtain ⟨plain, hplain, hline⟩ := ih hrest hlength
      refine ⟨c :: plain, ?_, ?_⟩
      · intro d hd
        rcases List.mem_cons.mp hd with rfl | hd
        · exact hc
        · exact hplain d hd
      · rcases hline with hline | hline | hline
        · exact .inl (by rw [hline])
        · exact .inr (.inl (by rw [hline]; rfl))
        · exact .inr (.inr (by rw [hline]; rfl))
    | true =>
      -- Only the carriage return in front of the newline leaves one line.
      by_cases hend : c = '\r' ∧ body = []
      · obtain ⟨rfl, rfl⟩ := hend
        exact ⟨[], by simp, .inr (.inr rfl)⟩
      · have hnext : c = '\r' → (body ++ ['\n']).head? ≠ some '\n' := by
          intro hcarriage hhead
          cases body with
          | nil => exact hend ⟨hcarriage, rfl⟩
          | cons d body =>
            obtain rfl : d = '\n' := Option.some.inj hhead
            exact hrest List.mem_cons_self
        rw [charScreenLines_boundary hc hnext, List.length_cons] at hone
        exact absurd (List.eq_nil_of_length_eq_zero (Nat.succ.inj hone)) hne

/-! ## Counting in a list of lists -/

section
variable {α β : Type} {f : α → List β} {xs : List α}

theorem exists_of_getElem?_flatMap {i : Nat} {y : β} (h : (xs.flatMap f)[i]? = some y) :
    ∃ front x back k, xs = front ++ x :: back ∧ (f x)[k]? = some y ∧
      (front.flatMap f).length + k = i := by
  induction xs generalizing i with
  | nil => cases h
  | cons x xs ih =>
    rw [List.flatMap_cons] at h
    by_cases hi : i < (f x).length
    · rw [List.getElem?_append_left hi] at h
      exact ⟨[], x, xs, i, rfl, h, Nat.zero_add i⟩
    · rw [List.getElem?_append_right (by omega)] at h
      obtain ⟨front, z, back, k, rfl, hz, hk⟩ := ih h
      refine ⟨x :: front, z, back, k, rfl, hz, ?_⟩
      rw [List.flatMap_cons, List.length_append]
      omega

theorem length_le_length_flatMap (h : ∀ x ∈ xs, 1 ≤ (f x).length) :
    xs.length ≤ (xs.flatMap f).length := by
  induction xs with
  | nil => exact Nat.zero_le _
  | cons x xs ih =>
    have hx := h x List.mem_cons_self
    have hxs := ih fun y hy => h y (List.mem_cons_of_mem _ hy)
    rw [List.flatMap_cons, List.length_append, List.length_cons]
    omega

theorem length_flatMap_eq_iff (h : ∀ x ∈ xs, 1 ≤ (f x).length) :
    (xs.flatMap f).length = xs.length ↔ ∀ x ∈ xs, (f x).length = 1 := by
  induction xs with
  | nil => simp
  | cons x xs ih =>
    have hx := h x List.mem_cons_self
    have hall : ∀ y ∈ xs, 1 ≤ (f y).length := fun y hy => h y (List.mem_cons_of_mem _ hy)
    have hle := length_le_length_flatMap hall
    have hrest := ih hall
    rw [List.flatMap_cons, List.length_append, List.length_cons]
    constructor
    · intro heq y hy
      rcases List.mem_cons.mp hy with rfl | hy
      · omega
      · exact hrest.mp (by omega) y hy
    · intro hone
      have hx := hone x List.mem_cons_self
      have hxs := hrest.mpr fun y hy => hone y (List.mem_cons_of_mem _ hy)
      omega

end

/-! ## Screen lines of a text -/

theorem screenLines_eq_flatMap (text : String) :
    screenLines text = (linesOf text).flatMap screenLines := by
  have hline : ∀ line : List Char,
      screenLines (String.ofList line) = (charScreenLines line).map String.ofList := by
    intro line
    rw [screenLines, String.toList_ofList]
  rw [linesOf, List.flatMap_map, screenLines, charScreenLines_eq_flatMap, List.map_flatMap]
  simp only [hline]

theorem ne_empty_of_mem_linesOf {text line : String} (h : line ∈ linesOf text) : line ≠ "" := by
  rintro rfl
  obtain ⟨i, hi⟩ := List.mem_iff_getElem?.mp h
  have hlined := lined_linesOf text
  obtain ⟨hlt, -⟩ := List.getElem?_eq_some_iff.mp hi
  by_cases hlast : i + 1 < (linesOf text).length
  · obtain ⟨body, -, hbody⟩ := hlined.ended i "" hi hlast
    simp at hbody
  · have hgetLast : (linesOf text).getLast? = some "" := by
      rw [List.getLast?_eq_getElem?, ← hi]
      congr 1
      omega
    rcases hlined.last "" hgetLast with ⟨body, -, hbody⟩ | ⟨-, hne⟩
    · simp at hbody
    · exact hne rfl

theorem one_le_length_screenLines {line : String} (h : line ≠ "") :
    1 ≤ (screenLines line).length := by
  have hne : line.toList ≠ [] := fun heq => h (String.toList_inj.mp heq)
  rw [screenLines, List.length_map]
  exact List.length_pos_iff.mpr (charScreenLines_ne_nil hne)

theorem length_linesOf_le_screenLines (text : String) :
    (linesOf text).length ≤ (screenLines text).length := by
  rw [screenLines_eq_flatMap]
  apply length_le_length_flatMap
  intro line hline
  exact one_le_length_screenLines (ne_empty_of_mem_linesOf hline)

/-- A text on screen at a line number, as part of a line of the whole. That line has the number if
the lines in front of the number are plain, and is further up if not. -/
def OnScreen (text : String) (number : Nat) (shown : String) : Prop :=
  ∃ found line part, 1 ≤ found ∧ found ≤ number ∧ (linesOf text)[found - 1]? = some line ∧
    (screenLines line)[part]? = some shown ∧ (found = number → part = 0) ∧
    (found = number ↔ ∀ other ∈ (linesOf text).take (number - 1), Plain other.toList)

theorem length_screenLines_of_plain {text line : String} (h : line ∈ linesOf text)
    (hplain : Plain line.toList) : (screenLines line).length = 1 := by
  rw [screenLines_of_plain hplain (ne_empty_of_mem_linesOf h)]
  rfl

/-- A line that others follow is plain if it is one line on screen. -/
theorem plain_of_length_screenLines {text line : String} {front back : List String} {last : String}
    (hlines : linesOf text = front ++ last :: back) (h : line ∈ front)
    (hone : (screenLines line).length = 1) : Plain line.toList := by
  obtain ⟨i, hi⟩ := List.mem_iff_getElem?.mp h
  obtain ⟨hlt, -⟩ := List.getElem?_eq_some_iff.mp hi
  have hended := (lined_linesOf text).ended i line
    (by rw [hlines, List.getElem?_append_left hlt, hi])
    (by rw [hlines, List.length_append, List.length_cons]; omega)
  rw [screenLines, List.length_map] at hone
  exact plain_of_length_one hended hone

theorem onScreen_of_getElem? {text shown : String} {number : Nat} (hnumber : 1 ≤ number)
    (h : (screenLines text)[number - 1]? = some shown) : OnScreen text number shown := by
  rw [screenLines_eq_flatMap] at h
  obtain ⟨front, line, back, part, hlines, hpart, hcount⟩ := exists_of_getElem?_flatMap h
  have hmem : ∀ other ∈ front, other ∈ linesOf text := by
    intro other hother
    rw [hlines]
    exact List.mem_append_left _ hother
  have hwide : ∀ other ∈ front, 1 ≤ (screenLines other).length := by
    intro other hother
    exact one_le_length_screenLines (ne_empty_of_mem_linesOf (hmem other hother))
  have hle := length_le_length_flatMap hwide
  have hone := length_flatMap_eq_iff hwide
  refine ⟨front.length + 1, line, part, by omega, by omega, ?_, hpart, by omega, ?_, ?_⟩
  · rw [hlines, Nat.add_sub_cancel, List.getElem?_append_right (Nat.le_refl _), Nat.sub_self]
    rfl
  · intro hfound other hother
    have htake : (linesOf text).take (number - 1) = front := by
      rw [hlines, ← hfound, Nat.add_sub_cancel, List.take_left]
    rw [htake] at hother
    exact plain_of_length_screenLines hlines hother (hone.mp (by omega) other hother)
  · intro hplain
    -- Further up, the line would be plain itself, and the numbers would not have parted.
    have hlast : ¬ front.length + 1 < number := by
      intro hlt
      have htake : (linesOf text).take (number - 1) =
          (front ++ [line]) ++ back.take (number - 1 - (front ++ [line]).length) := by
        rw [hlines, List.append_cons, List.take_append, List.take_of_length_le]
        rw [List.length_append, List.length_singleton]
        omega
      have hplain' : ∀ other ∈ front ++ [line], (screenLines other).length = 1 := by
        intro other hother
        have hmem : other ∈ (linesOf text).take (number - 1) := by
          rw [htake]
          exact List.mem_append_left _ hother
        exact length_screenLines_of_plain (List.mem_of_mem_take hmem) (hplain other hmem)
      have hlength := hone.mpr fun other hother => hplain' other (List.mem_append_left _ hother)
      have hline := hplain' line (List.mem_append_right _ List.mem_cons_self)
      obtain ⟨hpartLt, -⟩ := List.getElem?_eq_some_iff.mp hpart
      omega
    omega

/-- As far as the lines are plain, the screen lines are the lines without their ends. -/
theorem screenLines_getElem?_of_plain {text : String} {number : Nat} (hnumber : 1 ≤ number)
    (h : ∀ line ∈ (linesOf text).take number, Plain line.toList) :
    (screenLines text)[number - 1]? = (linesOf text)[number - 1]?.map withoutLineEnd := by
  have hfront : ((linesOf text).take number).flatMap screenLines =
      ((linesOf text).take number).map withoutLineEnd := by
    have hone : ∀ line ∈ (linesOf text).take number, screenLines line = [withoutLineEnd line] := by
      intro line hline
      exact screenLines_of_plain (h line hline) (ne_empty_of_mem_linesOf (List.mem_of_mem_take hline))
    rw [List.flatMap_def, List.map_congr_left hone, ← List.flatMap_def, List.map_eq_flatMap]
  have hsplit : screenLines text = ((linesOf text).take number).map withoutLineEnd ++
      ((linesOf text).drop number).flatMap screenLines := by
    rw [← hfront, ← List.flatMap_append, List.take_append_drop, ← screenLines_eq_flatMap]
  rw [hsplit]
  by_cases hle : number ≤ (linesOf text).length
  · rw [List.getElem?_append_left (by rw [List.length_map, List.length_take]; omega),
      List.getElem?_map, List.getElem?_take_of_lt (by omega)]
  · rw [List.drop_of_length_le (by omega), List.take_of_length_le (by omega), List.flatMap_nil,
      List.append_nil, List.getElem?_map]

end TruncIdiom.Text
