import TruncIdiom.Workspace.FileMap

/-!
Writing a file that is there.

A file that is there can be written without a change to anything else: the same files are there and
the same folders, so every path leads where it led (`placeOf?_put`). The file holds what was written
and every other file what it held.
-/

namespace TruncIdiom.Collection

theorem Entries.map_fst_put {κ α : Type} [DecidableEq κ] {entries : Entries κ α} {key : κ}
    (value : α) (h : (entries.get? key).isSome = true) :
    (entries.put key value).map (·.1) = entries.map (·.1) := by
  induction entries with
  | nil => cases h
  | cons entry rest ih =>
    obtain ⟨other, old⟩ := entry
    by_cases hkey : other = key
    · subst hkey
      simp [Entries.put]
    · simp only [Entries.get?, if_neg hkey] at h
      simp only [Entries.put, if_neg hkey, List.map_cons, ih h]

end TruncIdiom.Collection

namespace TruncIdiom.Workspace.FileMap

open Text Collection

variable {m : FileMap} {place here : Place} {path : String} {content old : Bytes}

/-! ## Where paths lead -/

theorem isFolderAt_put (h : (m.get? place).isSome = true) :
    (m.put place content).isFolderAt here = m.isFolderAt here := by
  have hany : ∀ m : FileMap, (m.files.any fun file => here.isPrefixOf file.1.dropLast) =
      (m.files.map (·.1)).any fun place => here.isPrefixOf place.dropLast := by
    intro m
    rw [List.any_map]
    rfl
  have hkeys : (m.put place content).files.map (·.1) = m.files.map (·.1) :=
    Entries.map_fst_put content h
  rw [isFolderAt, isFolderAt, hany, hany, hkeys]
  rfl

theorem follow_put (h : (m.get? place).isSome = true) (names : List String) :
    (m.put place content).follow here names = m.follow here names := by
  induction names generalizing here with
  | nil => rfl
  | cons name names ih => simp only [follow, isFolderAt_put h, ih]

theorem placeOf?_put (h : (m.get? place).isSome = true) (path : String) :
    (m.put place content).placeOf? path = m.placeOf? path := by
  rw [placeOf?, placeOf?, follow_put h]

/-! ## Reading -/

theorem read?_eq_some :
    m.read? path = some content ↔
      ∃ place, m.placeOf? path = some place ∧ m.get? place = some content :=
  Option.bind_eq_some_iff

theorem readSource?_eq_some :
    m.readSource? path = some content ↔ m.read? path = some content ∧ isSource content = true :=
  Option.filter_eq_some_iff

/-! ## Writing -/

theorem write_eq (h : m.placeOf? path = some place) (content : Bytes) :
    m.write path content = m.put place content := by
  rw [write, h]

theorem read?_write (h : m.read? path = some old) (content : Bytes) :
    (m.write path content).read? path = some content := by
  obtain ⟨place, hplace, hold⟩ := read?_eq_some.mp h
  rw [write_eq hplace, read?_eq_some]
  refine ⟨place, ?_, get?_put_self m place content⟩
  rw [placeOf?_put (by rw [hold]; rfl), hplace]

theorem get?_write_of_ne (h : m.placeOf? path ≠ some place) (content : Bytes) :
    (m.write path content).get? place = m.get? place := by
  rw [write]
  split
  · next written hwritten =>
    refine get?_put_of_ne m content ?_
    rintro rfl
    exact h hwritten
  · rfl

theorem placeOf?_write (h : m.read? path = some old) (content : Bytes) (other : String) :
    (m.write path content).placeOf? other = m.placeOf? other := by
  obtain ⟨place, hplace, hold⟩ := read?_eq_some.mp h
  rw [write_eq hplace]
  exact placeOf?_put (by rw [hold]; rfl) other

def Apart (m : FileMap) (path other : String) : Prop :=
  ∀ place, m.placeOf? path = some place → m.placeOf? other ≠ some place

theorem apart_iff {other : String} :
    m.Apart path other ↔ m.placeOf? path = none ∨ m.placeOf? other ≠ m.placeOf? path := by
  unfold Apart
  cases m.placeOf? path with
  | none => simp
  | some place => simp

instance (m : FileMap) (path other : String) : Decidable (m.Apart path other) :=
  decidable_of_iff _ apart_iff.symm

theorem read?_write_of_apart {other : String} (h : m.read? path = some old)
    (hapart : m.Apart path other) (content : Bytes) :
    (m.write path content).read? other = m.read? other := by
  rw [read?, read?, placeOf?_write h]
  cases hother : m.placeOf? other with
  | none => rfl
  | some place =>
    refine get?_write_of_ne ?_ content
    intro hplace
    exact hapart place hplace hother

end TruncIdiom.Workspace.FileMap
