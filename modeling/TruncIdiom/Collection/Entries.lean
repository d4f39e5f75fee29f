/-!
Entries: values by key, in the order the keys first came.

`put` keeps the place of a key that is there already, so a list of entries is a finite map together
with the order in which it was filled. `get?` sees the map and `put` changes it at one key only.
-/

namespace TruncIdiom.Collection

abbrev Entries (κ α : Type) := List (κ × α)

namespace Entries

variable {κ α : Type} [DecidableEq κ]

def get? (entries : Entries κ α) (key : κ) : Option α :=
  match entries with
  | [] => none
  | (other, value) :: rest => if other = key then some value else get? rest key

/-- Gives a key a value: in its place when it has one already, at the end otherwise. -/
def put (entries : Entries κ α) (key : κ) (value : α) : Entries κ α :=
  match entries with
  | [] => [(key, value)]
  | (other, old) :: rest =>
    if other = key then (key, value) :: rest else (other, old) :: put rest key value

def erase (entries : Entries κ α) (key : κ) : Entries κ α := entries.filter (·.1 ≠ key)

/-- The entries that pairs give one after the other: of two with one key the later value
stands. -/
def ofPairs (pairs : List (κ × α)) : Entries κ α :=
  pairs.foldl (fun entries pair => put entries pair.1 pair.2) []

theorem get?_put_self (entries : Entries κ α) (key : κ) (value : α) :
    get? (put entries key value) key = some value := by
  induction entries with
  | nil => simp [put, get?]
  | cons entry rest ih =>
    obtain ⟨other, old⟩ := entry
    by_cases h : other = key
    · simp [put, get?, h]
    · simp [put, get?, h, ih]

theorem get?_put_of_ne (entries : Entries κ α) {key other : κ} (value : α) (h : other ≠ key) :
    get? (put entries key value) other = get? entries other := by
  induction entries with
  | nil => simp [put, get?, Ne.symm h]
  | cons entry rest ih =>
    obtain ⟨first, old⟩ := entry
    by_cases hk : first = key
    · subst hk
      simp [put, get?, Ne.symm h]
    · simp [put, get?, hk, ih]

end Entries

end TruncIdiom.Collection
