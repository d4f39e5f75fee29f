import Mathlib.Data.List.DropRight
import TruncIdiom.Proofs.Text.Pattern
import TruncIdiom.Rule.Template

/-!
Rendering puts values in the place of placeholders, once and from left to right.

`placeholder?_braced` and `eq_braced_of_placeholder?` say what the pattern of placeholders matches:
two opening braces, a body without braces, and two closing braces, where the key is the body without
the blanks around it (`bodyKey`). Placeholders never overlap (`exists_append_of_braced`), so a
template divides into copied text and all of its placeholders. By `render_reads_once` the output is
what these give one after the other, whatever the data is.
-/

namespace TruncIdiom.Rule

open Text Json

/-! ## Placeholders as they are written -/

/-- Whether characters may stand between the braces of a placeholder. -/
structure IsBody (body : List Char) : Prop where
  ne_nil : body ≠ []
  plain : ∀ c ∈ body, isKeyChar c = true

def braced (body : List Char) : List Char := '\x7b' :: '\x7b' :: (body ++ ['\x7d', '\x7d'])

/-- The key that a body names: the body without the blanks on either side. A body of blanks alone
has its last character for a key. -/
def bodyKey (body : List Char) : List Char :=
  if body.all isBlank then body.getLast?.toList
  else (body.dropWhile isBlank).rdropWhile isBlank

theorem braced_append (body rest : List Char) :
    braced body ++ rest = '\x7b' :: '\x7b' :: (body ++ '\x7d' :: '\x7d' :: rest) := by
  simp [braced]

theorem length_braced (body : List Char) : (braced body).length = body.length + 4 := by
  simp [braced]

theorem isKeyChar_of_isBlank {c : Char} (h : isBlank c = true) : isKeyChar c = true := by
  rw [isKeyChar, Bool.and_eq_true, decide_eq_true_eq, decide_eq_true_eq]
  constructor
  · rintro rfl
    exact absurd h (by decide)
  · rintro rfl
    exact absurd h (by decide)

theorem closer_notMem {cs : List Char} (h : ∀ c ∈ cs, isKeyChar c = true) : '\x7d' ∉ cs :=
  fun hmem => absurd (h _ hmem) (by decide)

theorem closer_notMem_of_blank {cs : List Char} (h : ∀ c ∈ cs, isBlank c = true) : '\x7d' ∉ cs :=
  closer_notMem fun c hc => isKeyChar_of_isBlank (h c hc)

theorem exists_append_of_closer {xs ys us vs : List Char} (hxs : '\x7d' ∉ xs)
    (h : xs ++ us = ys ++ '\x7d' :: vs) :
    ∃ left, ys = xs ++ left ∧ us = left ++ '\x7d' :: vs := by
  rcases List.append_eq_append_iff.mp h with ⟨left, hys, hus⟩ | ⟨left, rfl, hvs⟩
  · exact ⟨left, hys, hus⟩
  · cases left with
    | nil => exact ⟨[], by simp, hvs.symm⟩
    | cons c left =>
      obtain ⟨rfl, -⟩ := List.cons.inj hvs
      exact absurd (List.mem_append_right _ List.mem_cons_self) hxs

theorem eq_of_append_closer {xs ys us vs : List Char} (hxs : '\x7d' ∉ xs) (hys : '\x7d' ∉ ys)
    (h : xs ++ '\x7d' :: us = ys ++ '\x7d' :: vs) : xs = ys ∧ us = vs := by
  obtain ⟨left, rfl, hleft⟩ := exists_append_of_closer hxs h
  cases left with
  | nil => exact ⟨(List.append_nil xs).symm, (List.cons.inj hleft).2⟩
  | cons c left =>
    obtain ⟨rfl, -⟩ := List.cons.inj hleft
    exact absurd (List.mem_append_right _ List.mem_cons_self) hys

/-! ## How a body is divided -/

def Blank (cs : List Char) : Prop := ∀ c ∈ cs, isBlank c = true

/-- A body divided into blanks, a key and blanks, with the most blanks in front that leave
something for the key, and the shortest key that leaves nothing but blanks. -/
structure Divided (body lead key trail : List Char) : Prop where
  whole : body = lead ++ (key ++ trail)
  lead_blank : Blank lead
  trail_blank : Blank trail
  ne_nil : key ≠ []
  most : ∀ lead' rest', lead' ++ rest' = body → Blank lead' → lead.length < lead'.length →
    rest' = []
  fewest : ∀ key' rest', key' ++ rest' = key ++ trail → key' ≠ [] → key'.length < key.length →
    ¬ Blank rest'

theorem divided_of_blank {body : List Char} (hne : body ≠ []) (hblank : Blank body) :
    ∃ lead trail, Divided body lead body.getLast?.toList trail := by
  have hlast : body.getLast?.toList = [body.getLast hne] := by
    rw [List.getLast?_eq_some_getLast hne, Option.toList_some]
  refine ⟨body.dropLast, [], ?_, ?_, ?_, ?_, ?_, ?_⟩
  · rw [hlast, List.append_nil, List.dropLast_append_getLast]
  · intro c hc
    exact hblank c (List.dropLast_subset _ hc)
  · intro c hc
    exact absurd hc List.not_mem_nil
  · rw [hlast]
    exact List.cons_ne_nil _ _
  · intro lead' rest' hwhole _ hlength
    have hsum := congrArg List.length hwhole
    rw [List.length_append] at hsum
    rw [List.length_dropLast] at hlength
    exact List.eq_nil_of_length_eq_zero (by omega)
  · intro key' rest' _ hkey hlength
    rw [hlast, List.length_singleton] at hlength
    exact absurd (List.eq_nil_of_length_eq_zero (by omega)) hkey

theorem divided_of_not_blank {body : List Char} (hblank : ¬ Blank body) :
    ∃ lead trail, Divided body lead ((body.dropWhile isBlank).rdropWhile isBlank) trail := by
  have hne : (body.dropWhile isBlank).rdropWhile isBlank ≠ [] := by
    rw [Ne, List.rdropWhile_eq_nil_iff]
    intro hrest
    apply hblank
    -- The blanks in front and the blanks left behind them are the whole body.
    intro c hc
    rw [← List.takeWhile_append_dropWhile (p := isBlank) (l := body)] at hc
    rcases List.mem_append.mp hc with hc | hc
    · exact List.mem_takeWhile_imp hc
    · exact hrest c hc
  refine ⟨body.takeWhile isBlank, (body.dropWhile isBlank).rtakeWhile isBlank, ?_, ?_, ?_, hne,
    ?_, ?_⟩
  · rw [List.rdropWhile_append_rtakeWhile, List.takeWhile_append_dropWhile]
  · exact fun c hc => List.mem_takeWhile_imp hc
  · exact fun c hc => List.mem_rtakeWhile_imp hc
  · intro lead' rest' hwhole hlead hlength
    have hle : lead'.length ≤ (body.takeWhile isBlank).length := by
      rw [le_length_takeWhile_iff, ← hwhole, List.take_left, List.length_append]
      exact ⟨Nat.le_add_right _ _, hlead⟩
    omega
  · intro key' rest' hwhole _ hlength hrest
    -- A shorter key leaves the last character of the key, which is no blank.
    obtain ⟨left, hkey⟩ : ∃ left, (body.dropWhile isBlank).rdropWhile isBlank = key' ++ left := by
      rcases List.append_eq_append_iff.mp hwhole with ⟨left, hkey, -⟩ | ⟨left, rfl, -⟩
      · exact ⟨left, hkey⟩
      · rw [List.length_append] at hlength
        omega
    have hleft : left ≠ [] := by
      rintro rfl
      rw [hkey, List.append_nil] at hlength
      exact Nat.lt_irrefl _ hlength
    have hlast := List.rdropWhile_last_not isBlank _ hne
    apply hlast
    apply hrest
    rw [hkey, List.append_assoc, List.append_cancel_left_eq] at hwhole
    rw [hwhole]
    apply List.mem_append_left
    simp only [hkey, List.getLast_append_of_ne_nil _ hleft]
    exact List.getLast_mem hleft

theorem exists_divided {body : List Char} (h : IsBody body) :
    ∃ lead trail, Divided body lead (bodyKey body) trail := by
  rw [bodyKey]
  by_cases hblank : Blank body
  · rw [if_pos (List.all_eq_true.mpr hblank)]
    exact divided_of_blank h.ne_nil hblank
  · rw [if_neg fun hall => hblank (List.all_eq_true.mp hall)]
    exact divided_of_not_blank hblank

/-! ## What the pattern of placeholders matches -/

def closingPattern : Pattern :=
  [⟨.most, isBlank⟩, ⟨.one, (· = '\x7d')⟩, ⟨.one, (· = '\x7d')⟩]

def innerPattern : Pattern := ⟨.most, isBlank⟩ :: ⟨.fewest, isKeyChar⟩ :: closingPattern

theorem match?_closing {trail rest : List Char} (h : Blank trail) :
    closingPattern.match? (trail ++ '\x7d' :: '\x7d' :: rest) =
      some [trail, ['\x7d'], ['\x7d']] := by
  refine match?_cons ⟨h, trivial⟩ (match?_one_cons rfl (match?_one_cons rfl rfl)) ?_
  intro trail' rest' hwhole htakes hlonger
  -- More blanks than these would have to take a closing brace.
  obtain ⟨left, rfl, -⟩ := exists_append_of_closer (closer_notMem_of_blank htakes.accepted) hwhole
  have hlonger : (trail' ++ left).length < trail'.length := hlonger
  rw [List.length_append] at hlonger
  omega

theorem eq_singleton_of_takes {c : Char} {piece : List Char}
    (h : Stretch.Takes ⟨.one, (· = c)⟩ piece) : piece = [c] := by
  obtain ⟨d, rfl⟩ := List.length_eq_one_iff.mp h.allowed
  rw [of_decide_eq_true (h.accepted d (List.mem_singleton_self d))]

theorem blank_of_match?_closing {tail rest : List Char} {pieces : List (List Char)}
    (htail : ∀ c ∈ tail, isKeyChar c = true)
    (h : closingPattern.match? (tail ++ '\x7d' :: '\x7d' :: rest) = some pieces) : Blank tail := by
  obtain ⟨htakes, left, hwhole⟩ := takes_of_match? h
  obtain ⟨blanks, _, hblanks, hmore, rfl⟩ := List.forall₂_cons_left_iff.mp htakes
  obtain ⟨closer, _, hcloser, -, rfl⟩ := List.forall₂_cons_left_iff.mp hmore
  obtain rfl := eq_singleton_of_takes hcloser
  simp only [List.flatten_cons, List.append_assoc, List.cons_append] at hwhole
  obtain ⟨rfl, -⟩ := eq_of_append_closer (closer_notMem htail)
    (closer_notMem_of_blank hblanks.accepted) hwhole
  exact hblanks.accepted

/-- The pattern behind the blanks needs something to take for a key. -/
theorem match?_keyed_closer (rest : List Char) :
    Pattern.match? (⟨.fewest, isKeyChar⟩ :: closingPattern) ('\x7d' :: rest) = none := rfl

theorem match?_inner {body lead key trail rest : List Char} (hbody : IsBody body)
    (h : Divided body lead key trail) :
    innerPattern.match? (body ++ '\x7d' :: '\x7d' :: rest) =
      some [lead, key, trail, ['\x7d'], ['\x7d']] := by
  obtain ⟨hwhole, hlead, htrail, hne, hmost, hfewest⟩ := h
  have hplain : ∀ c ∈ key ++ trail, isKeyChar c = true :=
    fun c hc => hbody.plain c (hwhole ▸ List.mem_append_right _ hc)
  have hkey : ∀ c ∈ key, isKeyChar c = true :=
    fun c hc => hplain c (List.mem_append_left _ hc)
  have htext : body ++ '\x7d' :: '\x7d' :: rest =
      lead ++ (key ++ (trail ++ '\x7d' :: '\x7d' :: rest)) := by
    rw [hwhole, List.append_assoc, List.append_assoc]
  rw [htext]
  refine match?_cons ⟨hlead, trivial⟩
    (match?_cons ⟨hkey, List.length_pos_iff.mpr hne⟩ (match?_closing htrail) ?_) ?_
  · intro key' rest' hsame htakes hshorter
    -- Behind a shorter key something is left that is no blank.
    rw [← List.append_assoc] at hsame
    obtain ⟨left, hleft, rfl⟩ := exists_append_of_closer (closer_notMem htakes.accepted) hsame
    have hleft_plain : ∀ c ∈ left, isKeyChar c = true :=
      fun c hc => hplain c (hleft ▸ List.mem_append_right _ hc)
    have hnot := hfewest key' left hleft.symm (List.length_pos_iff.mp htakes.allowed) hshorter
    rw [← Option.not_isSome_iff_eq_none, Option.isSome_iff_exists]
    rintro ⟨pieces, hpieces⟩
    exact hnot (blank_of_match?_closing hleft_plain hpieces)
  · intro lead' rest' hsame htakes hlonger
    -- Behind more blanks nothing is left in front of the closing braces.
    rw [← htext] at hsame
    obtain ⟨left, hleft, rfl⟩ :=
      exists_append_of_closer (closer_notMem_of_blank htakes.accepted) hsame
    obtain rfl := hmost lead' left hleft.symm htakes.accepted hlonger
    exact match?_keyed_closer _

theorem placeholder?_braced {body : List Char} (h : IsBody body) (rest : List Char) :
    placeholder? (braced body ++ rest) = some ⟨bodyKey body, braced body⟩ := by
  obtain ⟨lead, trail, hdivided⟩ := exists_divided h
  have hmatch : placeholderPattern.match? (braced body ++ rest) =
      some [['\x7b'], ['\x7b'], lead, bodyKey body, trail, ['\x7d'], ['\x7d']] := by
    rw [braced_append]
    exact match?_one_cons rfl (match?_one_cons rfl (match?_inner h hdivided))
  have hwritten : List.flatten [['\x7b'], ['\x7b'], lead, bodyKey body, trail, ['\x7d'],
      ['\x7d']] = braced body := by
    rw [braced]
    nth_rewrite 2 [hdivided.whole]
    simp
  rw [placeholder?, hmatch, Option.map_some, hwritten]
  rfl

theorem eq_braced_of_placeholder? {text : List Char} {p : Placeholder}
    (h : placeholder? text = some p) :
    ∃ body rest, IsBody body ∧ text = braced body ++ rest ∧ p = ⟨bodyKey body, braced body⟩ := by
  obtain ⟨pieces, hmatch, -⟩ := Option.map_eq_some_iff.mp h
  obtain ⟨htakes, rest, htext⟩ := takes_of_match? hmatch
  match pieces, htakes with
  | [first, second, lead, key, trail, third, fourth],
    .cons hfirst (.cons hsecond (.cons hlead (.cons hkey (.cons htrail
      (.cons hthird (.cons hfourth .nil)))))) =>
    obtain rfl := eq_singleton_of_takes hfirst
    obtain rfl := eq_singleton_of_takes hsecond
    obtain rfl := eq_singleton_of_takes hthird
    obtain rfl := eq_singleton_of_takes hfourth
    have hbody : IsBody (lead ++ (key ++ trail)) := by
      refine ⟨?_, ?_⟩
      · have hne : key ≠ [] := List.length_pos_iff.mp hkey.allowed
        simp [hne]
      · intro c hc
        rcases List.mem_append.mp hc with hc | hc
        · exact isKeyChar_of_isBlank (hlead.accepted c hc)
        · rcases List.mem_append.mp hc with hc | hc
          · exact hkey.accepted c hc
          · exact isKeyChar_of_isBlank (htrail.accepted c hc)
    have htext : text = braced (lead ++ (key ++ trail)) ++ rest := by
      rw [htext, braced]
      simp
    refine ⟨_, rest, hbody, htext, ?_⟩
    rw [htext, placeholder?_braced hbody] at h
    exact (Option.some.inj h).symm

/-! ## Placeholders do not overlap -/

/-- A placeholder that starts behind the start of another starts behind its end. -/
theorem exists_append_of_braced {body body' front rest back : List Char} (hbody : IsBody body)
    (hfront : front ≠ []) (h : braced body ++ rest = front ++ (braced body' ++ back)) :
    ∃ front', front = braced body ++ front' ∧ rest = front' ++ (braced body' ++ back) := by
  rcases List.append_eq_append_iff.mp h with ⟨front', hfront', hrest⟩ | ⟨left, hleft, hback⟩
  · exact ⟨front', hfront', hrest⟩
  · have hopener : '\x7b' ∉ body ++ ['\x7d', '\x7d'] := by
      rw [List.mem_append, not_or]
      exact ⟨fun hmem => absurd (hbody.plain _ hmem) (by decide), by decide⟩
    -- What the other takes of this one begins with an opening brace, and not at the start.
    match front, left with
    | [], _ => exact absurd rfl hfront
    | _, [] => exact ⟨[], by simpa using hleft.symm, hback.symm⟩
    | [c], d :: left =>
      rw [braced_append] at hback
      obtain ⟨-, hback⟩ := List.cons.inj hback
      obtain ⟨-, hleft⟩ := List.cons.inj hleft
      obtain ⟨-, rfl⟩ := List.cons.inj hleft
      obtain ⟨e, body, rfl⟩ := List.exists_cons_of_ne_nil hbody.ne_nil
      obtain ⟨rfl, -⟩ := List.cons.inj hback
      exact absurd List.mem_cons_self hopener
    | c :: c' :: front, d :: left =>
      rw [braced_append] at hback
      obtain ⟨rfl, -⟩ := List.cons.inj hback
      obtain ⟨-, hleft⟩ := List.cons.inj hleft
      obtain ⟨-, hleft⟩ := List.cons.inj hleft
      rw [hleft] at hopener
      exact absurd (List.mem_append_right _ List.mem_cons_self) hopener

theorem eq_of_braced {body body' rest rest' : List Char} (hbody : IsBody body)
    (hbody' : IsBody body') (h : braced body ++ rest = braced body' ++ rest') :
    body = body' ∧ rest = rest' := by
  rw [braced_append, braced_append, List.cons.injEq, List.cons.injEq] at h
  obtain ⟨rfl, hrest⟩ := eq_of_append_closer (closer_notMem hbody.plain)
    (closer_notMem hbody'.plain) h.2.2
  exact ⟨rfl, (List.cons.inj hrest).2⟩

/-! ## Templates in segments -/

/-- A part of a template: copied text, or a placeholder. -/
inductive Segment where
  | copied (text : List Char)
  | placeholder (body : List Char)
  deriving DecidableEq, Repr

/-- A segment as the template has it. -/
def Segment.written : Segment → List Char
  | .copied text => text
  | .placeholder body => braced body

/-- A segment as it is rendered: the text of the value of its key, or the segment as written. -/
def Segment.shown (data : Data) : Segment → List Char
  | .copied text => text
  | .placeholder body =>
    match Collection.Entries.get? data (String.ofList (bodyKey body)) with
    | some value => value.text.toList
    | none => braced body

/-- Segments that make up a template and leave no placeholder of it inside copied text. -/
structure Reading (template : List Char) (segments : List Segment) : Prop where
  whole : segments.flatMap Segment.written = template
  bodies : ∀ body, .placeholder body ∈ segments → IsBody body
  all : ∀ front body back, IsBody body → template = front ++ (braced body ++ back) →
    ∃ before after, segments = before ++ .placeholder body :: after ∧
      before.flatMap Segment.written = front ∧ after.flatMap Segment.written = back

theorem reading_nil : Reading [] [] := by
  refine ⟨rfl, ?_, ?_⟩
  · intro body hbody
    exact absurd hbody List.not_mem_nil
  · intro front body back _ h
    have hlength := congrArg List.length h
    simp [braced] at hlength

theorem Reading.copy {c : Char} {rest : List Char} {segments : List Segment}
    (h : placeholder? (c :: rest) = none) (hrest : Reading rest segments) :
    Reading (c :: rest) (.copied [c] :: segments) := by
  refine ⟨?_, ?_, ?_⟩
  · rw [List.flatMap_cons, hrest.whole]
    rfl
  · intro body hmem
    rcases List.mem_cons.mp hmem with hnot | hmem
    · cases hnot
    · exact hrest.bodies body hmem
  · intro front body back hbody hwhole
    cases front with
    | nil =>
      rw [hwhole, List.nil_append, placeholder?_braced hbody] at h
      cases h
    | cons d front =>
      obtain ⟨rfl, hbehind⟩ := List.cons.inj hwhole
      obtain ⟨before, after, rfl, rfl, rfl⟩ := hrest.all front body back hbody hbehind
      exact ⟨.copied [c] :: before, after, rfl, rfl, rfl⟩

theorem Reading.fill {body rest : List Char} {segments : List Segment} (hbody : IsBody body)
    (hrest : Reading rest segments) :
    Reading (braced body ++ rest) (.placeholder body :: segments) := by
  refine ⟨?_, ?_, ?_⟩
  · rw [List.flatMap_cons, hrest.whole]
    rfl
  · intro other hmem
    rcases List.mem_cons.mp hmem with hother | hmem
    · cases hother
      exact hbody
    · exact hrest.bodies other hmem
  · intro front other back hother hwhole
    by_cases hfront : front = []
    · obtain ⟨rfl, rfl⟩ := eq_of_braced hbody hother (by rw [hwhole, hfront, List.nil_append])
      exact ⟨[], segments, rfl, hfront.symm, hrest.whole⟩
    · obtain ⟨front', rfl, hbehind⟩ := exists_append_of_braced hbody hfront hwhole
      obtain ⟨before, after, rfl, rfl, rfl⟩ := hrest.all front' other back hother hbehind
      exact ⟨.placeholder body :: before, after, rfl, rfl, rfl⟩

/-! ## Rendering -/

theorem renderFrom_eq_drop (data : Data) (skip : Nat) (text : List Char) :
    renderFrom data skip text = renderFrom data 0 (text.drop skip) := by
  induction text generalizing skip with
  | nil => rw [List.drop_nil, renderFrom, renderFrom]
  | cons c rest ih =>
    cases skip with
    | zero => rfl
    | succ skip => rw [renderFrom, ih, List.drop_succ_cons]

theorem renderFrom_copy {data : Data} {c : Char} {rest : List Char}
    (h : placeholder? (c :: rest) = none) :
    renderFrom data 0 (c :: rest) = c :: renderFrom data 0 rest := by
  rw [renderFrom, h]

theorem renderFrom_fill {body : List Char} (hbody : IsBody body) (data : Data)
    (rest : List Char) : renderFrom data 0 (braced body ++ rest) =
      (Segment.placeholder body).shown data ++ renderFrom data 0 rest := by
  have hplaceholder := placeholder?_braced hbody rest
  obtain ⟨c, written, hwritten⟩ : ∃ c written, braced body = c :: written := ⟨_, _, rfl⟩
  rw [hwritten, List.cons_append] at hplaceholder ⊢
  rw [renderFrom, hplaceholder]
  show Placeholder.filled ⟨bodyKey body, c :: written⟩ data ++
    renderFrom data written.length (written ++ rest) = _
  rw [renderFrom_eq_drop, List.drop_left, ← hwritten]
  rfl

/-- A template has a reading, and rendering follows it whatever the data is. -/
theorem exists_reading (template : List Char) :
    ∃ segments, Reading template segments ∧
      ∀ data, renderFrom data 0 template = segments.flatMap (Segment.shown data) := by
  induction hn : template.length using Nat.strong_induction_on generalizing template with
  | _ n ih =>
    cases hfront : placeholder? template with
    | some p =>
      obtain ⟨body, rest, hbody, rfl, -⟩ := eq_braced_of_placeholder? hfront
      have hlt : rest.length < n := by
        rw [← hn, List.length_append, length_braced]
        omega
      obtain ⟨segments, hreading, hrender⟩ := ih rest.length hlt rest rfl
      refine ⟨.placeholder body :: segments, hreading.fill hbody, ?_⟩
      intro data
      rw [renderFrom_fill hbody, hrender, List.flatMap_cons]
    | none =>
      cases template with
      | nil => exact ⟨[], reading_nil, fun _ => rfl⟩
      | cons c rest =>
        obtain ⟨segments, hreading, hrender⟩ := ih rest.length (by simp [← hn]) rest rfl
        refine ⟨.copied [c] :: segments, hreading.copy hfront, ?_⟩
        intro data
        rw [renderFrom_copy hfront, hrender, List.flatMap_cons]
        rfl

/-- A template divides into copied text and its placeholders, and rendering gives for every data
what stands for these, one after the other. -/
theorem render_reads_once (template : String) :
    ∃ segments, Reading template.toList segments ∧
      ∀ data, render template data = String.ofList (segments.flatMap (Segment.shown data)) := by
  obtain ⟨segments, hreading, hrender⟩ := exists_reading template.toList
  refine ⟨segments, hreading, ?_⟩
  intro data
  rw [render, hrender]

/-- The text of a value is not read again, and blanks at the ends are no part of a key. -/
example : render "\x7b\x7b\x7ba \x7d\x7d\x7d \x7b\x7b \x7d\x7d"
    [("a", .string "\x7b\x7ba\x7d\x7d"), (" ", .int 5)] = "\x7b\x7b\x7ba\x7d\x7d\x7d 5" := by
  decide +kernel

end TruncIdiom.Rule
