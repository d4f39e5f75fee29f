import Mathlib.Data.List.DropRight
import Mathlib.Data.List.Forall2
import Mathlib.Data.List.Nodup
import TruncIdiom.Proofs.Workspace.Window

/-!
Which lines a window has, and how it numbers them.

Between its bounds, wherever these lie, a window has the lines that are within the limit and near
enough to the target (`around_eq`), whose numbers follow one another from its first bound on. With
numbers each of them is one line again: no number is wider than that of the last bound, so all leads
have one width, and the mark is where the number is the target's (`codeContext_near`).
-/

namespace TruncIdiom.Workspace

open Text Json Lint

/-! ## Near lines -/

/-- The lines with their numbers, from one on, that are within a limit and no further than `reach`
from a target. -/
def nearLines (lines : List String) (limit target reach : Nat) : List (String × Nat) :=
  (lines.zipIdx 1).filter fun line =>
    line.2 ≤ limit ∧ ((line.2 : Int) - target).natAbs ≤ reach

def lastNear (lines : List String) (limit target reach : Nat) : Nat :=
  min (min limit lines.length) (target + reach)

theorem filter_zipIdx_between {α : Type} (xs : List α) (k a b : Nat) :
    (xs.zipIdx k).filter (fun x => a ≤ x.2 ∧ x.2 < b) =
      (between xs (a - k) (b - k)).zipIdx (max a k) := by
  induction xs generalizing k with
  | nil => simp [between]
  | cons x xs ih =>
    rw [List.zipIdx_cons, List.filter_cons, ih]
    by_cases hb : k < b
    · have hstop : b - k = (b - (k + 1)) + 1 := by omega
      by_cases ha : a ≤ k
      · have hstart : a - k = 0 ∧ a - (k + 1) = 0 ∧ max a k = k ∧ max a (k + 1) = k + 1 := by omega
        rw [if_pos (by simp [ha, hb]), hstart.1, hstart.2.1, hstart.2.2.1, hstart.2.2.2, hstop]
        rfl
      · have hstart : a - k = (a - (k + 1)) + 1 ∧ max a k = max a (k + 1) := by omega
        rw [if_neg (by simp [ha]), hstart.1, hstart.2, hstop]
        rfl
    · have hstop : b - k = 0 ∧ b - (k + 1) = 0 := by omega
      rw [if_neg (by simp [hb]), hstop.1, hstop.2]
      simp [between]

theorem nearLines_eq (lines : List String) (limit target reach : Nat) :
    nearLines lines limit target reach =
      (between lines (target - reach - 1) (min limit (target + reach))).zipIdx
        (max (target - reach) 1) := by
  have hfilter := filter_zipIdx_between lines 1 (target - reach) (min limit (target + reach) + 1)
  rw [Nat.add_sub_cancel] at hfilter
  rw [← hfilter, nearLines]
  refine List.filter_congr fun line _ => ?_
  rw [decide_eq_decide]
  omega

/-! ## Windows -/

/-- The window around a line of those served has the near lines, and first the number of the first
of them. -/
theorem around_eq (lines : List String) (limit target reach : Nat) :
    Window.around (lines.take limit) target reach =
      ⟨(max (target - reach) 1 : Nat), (lastNear lines limit target reach : Nat),
        between lines (target - reach - 1) (min limit (target + reach))⟩ := by
  have hfirst : max 1 ((target : Int) - reach) = (max (target - reach) 1 : Nat) := by omega
  have hlast : min ((lines.take limit).length : Int) (target + reach) =
      (lastNear lines limit target reach : Nat) := by
    rw [List.length_take, lastNear]
    omega
  have hstart : ((max (target - reach) 1 : Nat) : Int) - 1 = (target - reach - 1 : Nat) := by omega
  have hlines : slice (lines.take limit) (target - reach - 1 : Nat)
      (lastNear lines limit target reach : Nat) =
        between lines (target - reach - 1) (min limit (target + reach)) := by
    have hserved : min (min (lastNear lines limit target reach) limit) lines.length =
        min (min limit (target + reach)) lines.length := by
      unfold lastNear
      omega
    rw [slice_natCast, between, between, List.take_take, List.take_eq_take_iff.mpr hserved]
  rw [Window.around, hfirst, hlast, hstart, hlines]

theorem numberedLines_eq (width : Nat) (target : Int) (first : Nat) (lines : List String) :
    numberedLines width target first lines =
      (lines.zipIdx first).map fun line => numberedLine width target line.2 line.1 := by
  induction lines generalizing first with
  | nil => rfl
  | cons line lines ih =>
    have hnext : (first : Int) + 1 = ((first + 1 : Nat) : Int) := by omega
    rw [numberedLines, hnext, ih, List.zipIdx_cons, List.map_cons]

theorem servedLines_int (content : Bytes) (limit : Nat) :
    servedLines content (.int limit) = .ok ((linesOf (decode content)).take limit) := by
  by_cases hlimit : limit < (linesOf (decode content)).length
  · have hexceeds : exceeds (linesOf (decode content)).length (.int limit) = .ok true := by
      simp [exceeds, hlimit]
    simp only [servedLines, hexceeds, linesTo, sliceTo_natCast]
    rfl
  · have hexceeds : exceeds (linesOf (decode content)).length (.int limit) = .ok false := by
      simp [exceeds, Nat.not_lt.mp hlimit]
    rw [servedLines_of_not_exceeds hexceeds, List.take_of_length_le (Nat.not_lt.mp hlimit)]

/-! ## Shown lines -/

/-- A line without the carriage returns and newlines at its end. -/
structure Bare (line body : String) : Prop where
  split : ∃ ending, line.toList = body.toList ++ ending ∧ ∀ c ∈ ending, c = '\r' ∨ c = '\n'
  last : ∀ c ∈ body.toList.getLast?, c ≠ '\r' ∧ c ≠ '\n'

/-- What stands in front of a line: a mark on the target, and the number behind some blanks. -/
def lead (target blanks number : Nat) : String :=
  (if number = target then ">" else " ") ++ " " ++
    (String.ofList (List.replicate blanks ' ') ++ toString number) ++ " | "

/-- How a line is shown under its number, with a lead of some width. -/
def ShownAs (width target : Nat) (line : String × Nat) (shown : String) : Prop :=
  ∃ blanks body, Bare line.1 body ∧ shown = lead target blanks line.2 ++ body ++ "\n" ∧
    (lead target blanks line.2).length = width

def isMarked (shown : String) : Bool := shown.toList.head? = some '>'

theorem bare_withoutLineEnd (line : String) : Bare line (withoutLineEnd line) := by
  have hbody : (withoutLineEnd line).toList =
      line.toList.rdropWhile fun c => c = '\r' || c = '\n' := by
    rw [withoutLineEnd, String.toList_ofList]
    rfl
  refine ⟨⟨line.toList.rtakeWhile fun c => c = '\r' || c = '\n', ?_, ?_⟩, ?_⟩
  · rw [hbody, List.rdropWhile_append_rtakeWhile]
  · intro c hc
    simpa using List.mem_rtakeWhile_imp hc
  · intro c hc
    rw [hbody] at hc
    obtain ⟨hne, hlast⟩ := List.mem_getLast?_eq_getLast hc
    have hkept := List.rdropWhile_last_not _ _ hne
    rw [← hlast] at hkept
    simpa using hkept

theorem Bare.newline_notMem {line body : String} (h : Bare line body)
    (hline : Ended line.toList ∨ '\n' ∉ line.toList) : '\n' ∉ body.toList := by
  obtain ⟨ending, hsplit, hending⟩ := h.split
  rcases hline with ⟨front, hfront, hended⟩ | hnone
  · rw [hended] at hsplit
    rcases List.eq_nil_or_concat ending with rfl | ⟨rest, c, rfl⟩
    · -- With nothing taken away the body would end with the newline.
      rw [List.append_nil] at hsplit
      have hlast := h.last '\n' (by rw [← hsplit]; simp)
      exact absurd rfl hlast.2
    · rw [List.concat_eq_append, ← List.append_assoc] at hsplit
      obtain ⟨rfl, -⟩ := List.append_inj' hsplit rfl
      exact fun hmem => hfront (List.mem_append_left _ hmem)
  · rw [hsplit] at hnone
    exact fun hmem => hnone (List.mem_append_left _ hmem)

theorem length_repr_le_of_le {a b : Nat} (h : a ≤ b) : a.repr.length ≤ b.repr.length := by
  rw [Nat.length_repr_le_iff Nat.length_repr_pos]
  have hb := (Nat.length_repr_le_iff (n := b) Nat.length_repr_pos).mp (Nat.le_refl _)
  exact Nat.lt_of_le_of_lt h hb

theorem newline_notMem_lead (target blanks number : Nat) :
    '\n' ∉ (lead target blanks number).toList := by
  have hdigits : '\n' ∉ number.repr.toList := by
    intro hmem
    rw [Nat.repr_eq_ofList_toDigits, String.toList_ofList] at hmem
    have hdigit := Nat.isDigit_of_mem_toDigits (by decide) (by decide) hmem
    cases hdigit
  simp only [lead, String.toList_append, List.mem_append, String.toList_ofList]
  rintro (((hmark | hblank) | hblank | hdigit) | hbar)
  · split at hmark <;> simp at hmark
  · simp at hblank
  · simp at hblank
  · exact hdigits hdigit
  · simp at hbar

theorem head?_lead (target blanks number : Nat) :
    (lead target blanks number).toList.head? = some (if number = target then '>' else ' ') := by
  simp only [lead, String.toList_append]
  split <;> rfl

theorem length_lead (target blanks number : Nat) :
    (lead target blanks number).length = blanks + number.repr.length + 5 := by
  have hmark : (if number = target then ">" else " ").length = 1 := by
    split <;> rfl
  have hblanks : (String.ofList (List.replicate blanks ' ')).length = blanks := by simp
  simp only [lead, String.length_append, hmark, hblanks]
  show 1 + 1 + (blanks + number.repr.length) + 3 = _
  omega

theorem numberedLine_shownAs {last number : Nat} (h : number ≤ last) (target : Nat)
    (line : String) : ShownAs ((toString last).length + 5) target (line, number)
      (numberedLine (toString (last : Int)).length target number line) := by
  have hlength := length_repr_le_of_le h
  refine ⟨last.repr.length - number.repr.length, withoutLineEnd line, bare_withoutLineEnd line,
    ?_, ?_⟩
  · have hmark : ((number : Int) = target) = (number = target) := by
      rw [Int.natCast_inj]
    simp only [numberedLine, hmark]
    rfl
  · rw [length_lead, Nat.sub_add_cancel hlength]
    rfl

theorem ShownAs.ended {width target : Nat} {line : String × Nat} {shown : String}
    (h : ShownAs width target line shown) (hline : Ended line.1.toList ∨ '\n' ∉ line.1.toList) :
    Ended shown.toList := by
  obtain ⟨blanks, body, hbare, rfl, -⟩ := h
  refine ⟨(lead target blanks line.2 ++ body).toList, ?_, String.toList_append⟩
  rw [String.toList_append, List.mem_append, not_or]
  exact ⟨newline_notMem_lead target blanks line.2, hbare.newline_notMem hline⟩

theorem ShownAs.isMarked_eq {width target : Nat} {line : String × Nat} {shown : String}
    (h : ShownAs width target line shown) : isMarked shown = decide (line.2 = target) := by
  obtain ⟨blanks, body, -, rfl, -⟩ := h
  have hhead := head?_lead target blanks line.2
  obtain ⟨first, rest, hlead⟩ : ∃ first rest, (lead target blanks line.2).toList = first :: rest :=
    List.exists_cons_of_ne_nil fun hnil => by rw [hnil] at hhead; cases hhead
  rw [hlead, List.head?_cons, Option.some_inj] at hhead
  rw [isMarked, String.toList_append, String.toList_append, hlead, hhead]
  by_cases hmark : line.2 = target <;> simp [hmark]

/-! ## Numbers of near lines -/

theorem mem_nearLines {lines : List String} {limit target reach : Nat} {line : String × Nat}
    (h : line ∈ nearLines lines limit target reach) :
    line.1 ∈ lines ∧ line.2 ≤ lastNear lines limit target reach := by
  obtain ⟨hmem, hnear⟩ := List.mem_filter.mp h
  obtain ⟨-, hlt, hget⟩ := List.mem_zipIdx hmem
  refine ⟨hget ▸ List.getElem_mem _, ?_⟩
  have hnear := of_decide_eq_true hnear
  unfold lastNear
  omega

theorem target_mem_nearLines_iff {lines : List String} {limit target reach : Nat} :
    target ∈ (nearLines lines limit target reach).map (·.2) ↔
      1 ≤ target ∧ target ≤ min limit lines.length := by
  rw [List.mem_map]
  constructor
  · rintro ⟨line, hline, rfl⟩
    obtain ⟨hfirst, -, -⟩ := List.mem_zipIdx (List.mem_filter.mp hline).1
    exact ⟨hfirst, Nat.le_trans (mem_nearLines hline).2 (Nat.min_le_left _ _)⟩
  · rintro ⟨hfirst, hlast⟩
    have hlt : target - 1 < lines.length := by omega
    refine ⟨(lines[target - 1], target), List.mem_filter.mpr ⟨?_, decide_eq_true ?_⟩, rfl⟩
    · exact List.mk_mem_zipIdx_iff_le_and_getElem?_sub.mpr ⟨hfirst, List.getElem?_eq_getElem hlt⟩
    · dsimp only
      omega

/-- The target is among the near lines once when it is served, and not at all otherwise. -/
theorem countP_nearLines (lines : List String) (limit target reach : Nat) :
    (nearLines lines limit target reach).countP (fun line => line.2 = target) =
      if 1 ≤ target ∧ target ≤ min limit lines.length then 1 else 0 := by
  have hnodup : ((nearLines lines limit target reach).map (·.2)).Nodup := by
    have hall : ((lines.zipIdx 1).map (·.2)).Nodup := by
      rw [List.zipIdx_map_snd]
      exact List.nodup_range'
    exact hall.sublist (List.filter_sublist.map _)
  have hcount : (nearLines lines limit target reach).countP (fun line => line.2 = target) =
      ((nearLines lines limit target reach).map (·.2)).count target := by
    rw [List.count, List.countP_map]
    rfl
  rw [hcount]
  split
  · next hserved => exact List.count_eq_one_of_mem hnodup (target_mem_nearLines_iff.mpr hserved)
  · next hserved => exact List.count_eq_zero.mpr (mt target_mem_nearLines_iff.mp hserved)

/-! ## What is shown of a file -/

theorem plain_around (lines : List String) (limit target reach : Nat) :
    (Window.around (lines.take limit) target reach).plain =
      String.join ((nearLines lines limit target reach).map (·.1)) := by
  rw [around_eq, Window.plain, nearLines_eq]
  exact congrArg String.join (List.zipIdx_map_fst _ _).symm

def shownLines (lines : List String) (limit target reach : Nat) : List String :=
  (nearLines lines limit target reach).map fun line =>
    numberedLine (toString (lastNear lines limit target reach : Int)).length target line.2 line.1

theorem numbered_around (lines : List String) (limit target reach : Nat) :
    (Window.around (lines.take limit) target reach).numbered target =
      String.join (shownLines lines limit target reach) := by
  rw [around_eq, Window.numbered, numberedLines_eq, ← nearLines_eq]
  rfl

theorem shownLines_shownAs (lines : List String) (limit target reach : Nat) :
    List.Forall₂ (ShownAs ((toString (lastNear lines limit target reach)).length + 5) target)
      (nearLines lines limit target reach) (shownLines lines limit target reach) := by
  rw [shownLines, List.forall₂_map_right_iff, List.forall₂_same]
  intro line hline
  exact numberedLine_shownAs (mem_nearLines hline).2 target line.1

theorem countP_shownLines (lines : List String) (limit target reach : Nat) :
    (shownLines lines limit target reach).countP isMarked =
      if 1 ≤ target ∧ target ≤ min limit lines.length then 1 else 0 := by
  rw [← countP_nearLines, shownLines, List.countP_map]
  refine List.countP_congr fun line hline => ?_
  rw [Function.comp_apply, (numberedLine_shownAs (mem_nearLines hline).2 target line.1).isMarked_eq]

/-- Each of the lines with numbers is one line, so the text of a window has these lines. -/
theorem linesOf_join_shownLines (text : String) (limit target reach : Nat) :
    linesOf (String.join (shownLines (linesOf text) limit target reach)) =
      shownLines (linesOf text) limit target reach := by
  refine linesOf_join fun shown hshown => ?_
  obtain ⟨line, hline, rfl⟩ := List.mem_map.mp hshown
  obtain ⟨hmem, hlast⟩ := mem_nearLines hline
  exact (numberedLine_shownAs hlast target line.1).ended (ended_or_of_mem_linesOf hmem)

section
variable {m : FileMap} {root path : String} {content : Bytes}

/-- The text around a line of a file is that of the lines that are served and near enough to it, in
order. With numbers it has one line for each of these, with its number and its own text behind a
lead of one width; the mark is on the target, and nowhere when the target is not served. -/
theorem codeContext_near (hsource : m.readSource? (resolvePath root path) = some content)
    (limit target reach : Nat) :
    ∃ lines out width, Lined (decode content) lines ∧
      codeContext m root (.int limit) path target reach false =
        .ok (String.join ((nearLines lines limit target reach).map (·.1))) ∧
      codeContext m root (.int limit) path target reach true = .ok out ∧
      List.Forall₂ (ShownAs width target) (nearLines lines limit target reach) (linesOf out) ∧
      (linesOf out).countP isMarked =
        if 1 ≤ target ∧ target ≤ min limit lines.length then 1 else 0 := by
  have hserved := servedLines_int content limit
  refine ⟨linesOf (decode content),
    String.join (shownLines (linesOf (decode content)) limit target reach),
    (toString (lastNear (linesOf (decode content)) limit target reach)).length + 5,
    lined_linesOf _, ?_, ?_, ?_, ?_⟩
  · rw [codeContext_of_source hsource hserved, ← plain_around]
    rfl
  · rw [codeContext_of_source hsource hserved, if_pos rfl, numbered_around]
  · rw [linesOf_join_shownLines (decode content)]
    exact shownLines_shownAs _ limit target reach
  · rw [linesOf_join_shownLines]
    exact countP_shownLines _ limit target reach

/-- Twelve lines, some of which end with a carriage return as well. -/
def dozen : Bytes := encode "1\n2\n3\n4\n5\n6\n7\n8\nnine\r\nten\r\n11\n12"

/-- Around the tenth of twelve lines, of which the last is not served. -/
theorem codeContext_near_dozen :
    let m : FileMap := ⟨[(["a.js"], dozen)], []⟩
    let out := "   8 | 8\n   9 | nine\n> 10 | ten\n  11 | 11\n"
    m.readSource? (resolvePath "." "a.js") = some dozen ∧
      codeContext m "." (.int 11) "a.js" 10 2 false = .ok "8\nnine\r\nten\r\n11\n" ∧
      codeContext m "." (.int 11) "a.js" 10 2 true = .ok out ∧
      ∃ lines width, Lined (decode dozen) lines ∧
        List.Forall₂ (ShownAs width 10) (nearLines lines 11 10 2) (linesOf out) ∧
        (linesOf out).countP isMarked = 1 := by
  intro m out
  have hsource : m.readSource? (resolvePath "." "a.js") = some dozen := by decide +kernel
  have hserved : servedLines dozen (.int 11) = .ok ((linesOf (decode dozen)).take 11) :=
    servedLines_int dozen 11
  have hplain : codeContext m "." (.int 11) "a.js" 10 2 false =
      .ok "8\nnine\r\nten\r\n11\n" := by
    rw [codeContext_of_source hsource hserved]
    exact congrArg Except.ok (by decide +kernel)
  have hnumbered : codeContext m "." (.int 11) "a.js" 10 2 true = .ok out := by
    rw [codeContext_of_source hsource hserved]
    exact congrArg Except.ok (by decide +kernel)
  obtain ⟨lines, shown, width, hlined, -, hshown, hlines, -⟩ := codeContext_near hsource 11 10 2
  obtain rfl := Except.ok.inj (hshown.symm.trans hnumbered)
  exact ⟨hsource, hplain, hnumbered, lines, width, hlined, hlines, by decide +kernel⟩

end

end TruncIdiom.Workspace
