import TruncIdiom.Session.Repair

/-!
Marks read back after they are written.

A key has the mark that was put last. Marking the diagnostics that had a fix marks their keys and no
others; settling a line replaces `fixed` on that line and nothing else. No key is written twice, and
the path of a key has no backslash; whatever is put or settled, this stays so (`Tidy`).
-/

namespace TruncIdiom.Collection.Entries

variable {κ α : Type} [DecidableEq κ] {entries : Entries κ α} {key : κ} {value : α}

theorem get?_map (f : κ → α → α) (entries : Entries κ α) (key : κ) :
    get? (entries.map fun entry => (entry.1, f entry.1 entry.2)) key =
      (get? entries key).map (f key) := by
  induction entries with
  | nil => rfl
  | cons entry rest ih =>
    obtain ⟨other, old⟩ := entry
    by_cases h : other = key
    · subst h
      simp [get?]
    · simp [get?, h, ih]

theorem get?_eq_some_of_mem (hnodup : (entries.map (·.1)).Nodup) (h : (key, value) ∈ entries) :
    get? entries key = some value := by
  induction entries with
  | nil => cases h
  | cons entry rest ih =>
    rw [List.map_cons, List.nodup_cons] at hnodup
    rcases List.mem_cons.mp h with rfl | hrest
    · simp [get?]
    · have hne : entry.1 ≠ key := by
        rintro rfl
        exact hnodup.1 (List.mem_map.mpr ⟨_, hrest, rfl⟩)
      rw [get?, if_neg hne]
      exact ih hnodup.2 hrest

theorem mem_of_get?_eq_some (h : get? entries key = some value) : (key, value) ∈ entries := by
  induction entries with
  | nil => cases h
  | cons entry rest ih =>
    obtain ⟨other, old⟩ := entry
    rw [get?] at h
    split at h
    · next hkey =>
      rw [hkey, Option.some.inj h]
      exact List.mem_cons_self
    · exact List.mem_cons_of_mem _ (ih h)

theorem mem_put {entry : κ × α} (h : entry ∈ put entries key value) :
    entry = (key, value) ∨ entry ∈ entries := by
  induction entries with
  | nil => exact .inl (List.mem_singleton.mp h)
  | cons first rest ih =>
    rw [put] at h
    split at h
    · rcases List.mem_cons.mp h with rfl | hrest
      · exact .inl rfl
      · exact .inr (List.mem_cons_of_mem _ hrest)
    · rcases List.mem_cons.mp h with rfl | hrest
      · exact .inr List.mem_cons_self
      · exact (ih hrest).imp_right (List.mem_cons_of_mem _)

theorem nodup_keys_put (value : α) (h : (entries.map (·.1)).Nodup) :
    ((put entries key value).map (·.1)).Nodup := by
  induction entries with
  | nil => simp [put]
  | cons first rest ih =>
    rw [List.map_cons, List.nodup_cons] at h
    rw [put]
    split
    · next hkey =>
      rw [List.map_cons, List.nodup_cons, ← hkey]
      exact h
    · next hkey =>
      rw [List.map_cons, List.nodup_cons]
      refine ⟨?_, ih h.2⟩
      intro hmem
      obtain ⟨entry, hentry, hfirst⟩ := List.mem_map.mp hmem
      rcases mem_put hentry with rfl | hrest
      · exact hkey hfirst.symm
      · exact h.1 (hfirst ▸ List.mem_map_of_mem hrest)

end TruncIdiom.Collection.Entries

namespace TruncIdiom.Session

open Rule Collection Workspace

variable {marks : Marks} {path : String} {line : Int} {key : MarkKey} {mark : Mark}
  {before : List Message}

/-! ## Marks by key -/

theorem get?_putFixed (marks : Marks) (path : String) (m : Message) (key : MarkKey) :
    Entries.get? (marks.putFixed path m) key =
      if MarkKey.of path m = key then some .fixed else Entries.get? marks key := by
  rw [Marks.putFixed]
  split
  · next h => rw [← h, Entries.get?_put_self]
  · next h => rw [Entries.get?_put_of_ne _ _ (Ne.symm h)]

/-- Whether a run over a file marks a key: it is that of a diagnostic that had a fix before. -/
def HadFix (path : String) (before : List Message) (key : MarkKey) : Prop :=
  ∃ m ∈ before, m.fix.isSome = true ∧ MarkKey.of path m = key

theorem hadFix_iff_mem_filter :
    HadFix path before key ↔ ∃ m ∈ before.filter (·.fix.isSome), MarkKey.of path m = key := by
  simp only [HadFix, List.mem_filter, and_assoc]

theorem get?_foldl_putFixed (marks : Marks) (path : String) (messages : List Message)
    (key : MarkKey) :
    ((∃ m ∈ messages, MarkKey.of path m = key) →
        Entries.get? (messages.foldl (fun marks m => Marks.putFixed marks path m) marks) key =
          some .fixed) ∧
      ((∀ m ∈ messages, MarkKey.of path m ≠ key) →
        Entries.get? (messages.foldl (fun marks m => Marks.putFixed marks path m) marks) key =
          Entries.get? marks key) := by
  induction messages generalizing marks with
  | nil => exact ⟨by simp, fun _ => rfl⟩
  | cons first rest ih =>
    obtain ⟨hmarked, hkept⟩ := ih (marks.putFixed path first)
    rw [List.foldl_cons]
    constructor
    · rintro ⟨m, hm, hkey⟩
      by_cases hlater : ∃ m ∈ rest, MarkKey.of path m = key
      · exact hmarked hlater
      · -- No later message has the key, so the first one does and its mark stands.
        have hfirst : m = first := by
          rcases List.mem_cons.mp hm with h | h
          · exact h
          · exact absurd ⟨m, h, hkey⟩ hlater
        rw [hkept (by simpa using hlater), get?_putFixed, if_pos (hfirst ▸ hkey)]
    · intro hnone
      rw [hkept fun m hm => hnone m (List.mem_cons_of_mem _ hm), get?_putFixed,
        if_neg (hnone first List.mem_cons_self)]

theorem get?_markFixed_of_hadFix (marks : Marks) (h : HadFix path before key) :
    Entries.get? (markFixed marks path before) key = some .fixed :=
  (get?_foldl_putFixed ..).1 (hadFix_iff_mem_filter.mp h)

theorem get?_markFixed_of_not_hadFix (marks : Marks) (h : ¬ HadFix path before key) :
    Entries.get? (markFixed marks path before) key = Entries.get? marks key := by
  refine (get?_foldl_putFixed ..).2 fun m hm hkey => h ?_
  exact hadFix_iff_mem_filter.mpr ⟨m, hm, hkey⟩

/-- What settling a line makes of the mark of a key. -/
def settledMark (path : String) (line : Int) (mark : Mark) (key : MarkKey) (old : Mark) : Mark :=
  if Marks.isAt path line key && old = .fixed then mark else old

theorem settle_eq_map (marks : Marks) (path : String) (line : Int) (mark : Mark) :
    marks.settle path line mark =
      marks.map fun entry => (entry.1, settledMark path line mark entry.1 entry.2) := by
  rw [Marks.settle]
  congr 1
  funext ⟨key, old⟩
  dsimp only [settledMark]
  split <;> rfl

theorem get?_settle (marks : Marks) (path : String) (line : Int) (mark : Mark) (key : MarkKey) :
    Entries.get? (marks.settle path line mark) key =
      (Entries.get? marks key).map (settledMark path line mark key) := by
  rw [settle_eq_map, Entries.get?_map]

theorem get?_settle_of_fixed (hat : Marks.isAt path line key = true)
    (hfixed : Entries.get? marks key = some .fixed) :
    Entries.get? (marks.settle path line mark) key = some mark := by
  rw [get?_settle, hfixed, Option.map_some, settledMark, hat]
  rfl

/-- Settling a line changes only marks of that line that say fixed. -/
theorem fixed_of_get?_settle_ne
    (h : Entries.get? (marks.settle path line mark) key ≠ Entries.get? marks key) :
    Marks.isAt path line key = true ∧ Entries.get? marks key = some .fixed := by
  rw [get?_settle] at h
  cases hold : Entries.get? marks key with
  | none =>
    rw [hold] at h
    exact absurd rfl h
  | some old =>
    rw [hold, Option.map_some, settledMark] at h
    split at h
    · next hcond =>
      rw [Bool.and_eq_true, decide_eq_true_eq] at hcond
      exact ⟨hcond.1, congrArg some hcond.2⟩
    · exact absurd rfl h

/-! ## Tidy marks -/

/-- Marks in which every key stands once, with slashes only in its path. -/
structure Marks.Tidy (marks : Marks) : Prop where
  nodup : (marks.map (·.1)).Nodup
  slashes : ∀ entry ∈ marks, '\\' ∉ entry.1.path.toList

theorem Marks.Tidy.mem_iff (h : marks.Tidy) :
    (key, mark) ∈ marks ↔ Entries.get? marks key = some mark :=
  ⟨Entries.get?_eq_some_of_mem h.nodup, Entries.mem_of_get?_eq_some⟩

theorem Marks.Tidy.nil : Marks.Tidy [] :=
  ⟨List.nodup_nil, fun _ hentry => absurd hentry List.not_mem_nil⟩

theorem not_mem_withSlashes (path : String) : '\\' ∉ (withSlashes path).toList := by
  rw [withSlashes, String.toList_map, List.mem_map]
  rintro ⟨c, -, hc⟩
  split at hc
  · exact absurd hc (by decide)
  · next hne => exact hne hc

theorem Marks.Tidy.putFixed (h : marks.Tidy) (path : String) (m : Message) :
    (marks.putFixed path m).Tidy where
  nodup := Entries.nodup_keys_put _ h.nodup
  slashes entry hentry := by
    rcases Entries.mem_put hentry with rfl | hold
    · exact not_mem_withSlashes path
    · exact h.slashes entry hold

theorem Marks.Tidy.markFixed (h : marks.Tidy) (path : String) (before : List Message) :
    (markFixed marks path before).Tidy := by
  rw [Session.markFixed]
  generalize before.filter (·.fix.isSome) = messages
  induction messages generalizing marks with
  | nil => exact h
  | cons m rest ih => exact ih (h.putFixed path m)

theorem Marks.Tidy.settle (h : marks.Tidy) (path : String) (line : Int) (mark : Mark) :
    (marks.settle path line mark).Tidy := by
  rw [settle_eq_map]
  constructor
  · rw [List.map_map]
    exact h.nodup
  · intro entry hentry
    obtain ⟨old, hold, rfl⟩ := List.mem_map.mp hentry
    exact h.slashes old hold

end TruncIdiom.Session
