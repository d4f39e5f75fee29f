import TruncIdiom.Lint.Config

/-!
Spellings of keys.

A key of several words may be written in snake_case, camelCase or PascalCase. The small form of
ASCII text is taken letter for letter (`lower_ofList_of_ascii`), so in an ASCII key each capital
behind the first character becomes an underscore and a small letter (`snakeCase_of_ascii`). That is
what stands between two words in snake_case, and by `snakeCase_key` all three spellings of some
words have the snake_case one as their form.
-/

namespace TruncIdiom.Lint

open Text

/-! ## ASCII text -/

def IsAscii (c : Char) : Prop := c.toNat < 128

instance (c : Char) : Decidable (IsAscii c) := inferInstanceAs (Decidable (c.toNat < 128))

theorem smallForm_of_ascii {c : Char} (h : IsAscii c) : smallForm c = c.toLower := by
  have htable : ∀ n : Fin 128, smallForm (Char.ofNat n) = (Char.ofNat n).toLower := by
    decide +kernel
  rw [← Char.ofNat_toNat c]
  exact htable ⟨c.toNat, h⟩

theorem lowerFrom_of_ascii {cs : List Char} (h : ∀ c ∈ cs, IsAscii c) (before : List Char) :
    lowerFrom before cs = cs.map Char.toLower := by
  induction cs generalizing before with
  | nil => rfl
  | cons c cs ih =>
    have hc : IsAscii c := h c List.mem_cons_self
    -- Neither of the two characters that do not go letter for letter is an ASCII one.
    have hdotted : c ≠ 'İ' := by
      rintro rfl
      exact absurd hc (by decide)
    have hsigma : c ≠ 'Σ' := by
      rintro rfl
      exact absurd hc (by decide)
    rw [lowerFrom, ih fun d hd => h d (List.mem_cons_of_mem _ hd)]
    simp [hdotted, hsigma, smallForm_of_ascii hc]

theorem lower_ofList_of_ascii {cs : List Char} (h : ∀ c ∈ cs, IsAscii c) :
    lower (String.ofList cs) = String.ofList (cs.map Char.toLower) := by
  rw [lower, String.toList_ofList, lowerFrom_of_ascii h]

/-- What a character that is not the first gives in snake_case. -/
def snakePiece (c : Char) : List Char :=
  if 'A' ≤ c ∧ c ≤ 'Z' then ['_', c.toLower] else [c.toLower]

/-- Characters in snake_case: each capital but the first character with an underscore in front,
and all in small letters. -/
def snakeForm : List Char → List Char
  | [] => []
  | c :: cs => c.toLower :: cs.flatMap snakePiece

theorem isAscii_of_mem_underscoreCapitals {cs : List Char} {d : Char} (h : ∀ c ∈ cs, IsAscii c)
    (hd : d ∈ underscoreCapitals cs) : IsAscii d := by
  cases cs with
  | nil => cases hd
  | cons c cs =>
    rcases List.mem_cons.mp hd with rfl | hd
    · exact h d List.mem_cons_self
    · obtain ⟨e, he, hd⟩ := List.mem_flatMap.mp hd
      have hascii := h e (List.mem_cons_of_mem _ he)
      split at hd
      · rcases List.mem_cons.mp hd with rfl | hd
        · decide
        · exact List.mem_singleton.mp hd ▸ hascii
      · exact List.mem_singleton.mp hd ▸ hascii

theorem map_toLower_underscoreCapitals (cs : List Char) :
    (underscoreCapitals cs).map Char.toLower = snakeForm cs := by
  cases cs with
  | nil => rfl
  | cons c cs =>
    have hpiece : ∀ d : Char,
        (if 'A' ≤ d ∧ d ≤ 'Z' then ['_', d] else [d]).map Char.toLower = snakePiece d := by
      intro d
      rw [snakePiece]
      split <;> rfl
    rw [underscoreCapitals, List.map_cons, List.map_flatMap, snakeForm]
    simp only [hpiece]

theorem snakeCase_of_ascii {key : String} (h : ∀ c ∈ key.toList, IsAscii c) :
    snakeCase key = String.ofList (snakeForm key.toList) := by
  rw [snakeCase, lower_ofList_of_ascii fun _ hd => isAscii_of_mem_underscoreCapitals h hd,
    map_toLower_underscoreCapitals]

/-! ## Words -/

def IsSmallLetter (c : Char) : Prop := 'a' ≤ c ∧ c ≤ 'z'

instance (c : Char) : Decidable (IsSmallLetter c) :=
  inferInstanceAs (Decidable ('a' ≤ c ∧ c ≤ 'z'))

namespace IsSmallLetter
variable {c : Char}

/-- What holds of the twenty-six small letters. -/
theorem of_codes {p : Char → Prop} (h : ∀ n : Fin 26, p (Char.ofNat (97 + n)))
    (hc : IsSmallLetter c) : p c := by
  have hfirst : 97 ≤ c.toNat := hc.1
  have hlast : c.toNat ≤ 122 := hc.2
  have hcode : 97 + (c.toNat - 97) = c.toNat := by omega
  rw [← Char.ofNat_toNat c, ← hcode]
  exact h ⟨c.toNat - 97, by omega⟩

theorem isAscii (h : IsSmallLetter c) : IsAscii c := h.of_codes (by decide)

theorem isAscii_toUpper (h : IsSmallLetter c) : IsAscii c.toUpper :=
  h.of_codes (p := fun c => IsAscii c.toUpper) (by decide)

theorem toLower_eq (h : IsSmallLetter c) : c.toLower = c :=
  h.of_codes (p := fun c => c.toLower = c) (by decide)

theorem toLower_toUpper (h : IsSmallLetter c) : c.toUpper.toLower = c :=
  h.of_codes (p := fun c => c.toUpper.toLower = c) (by decide)

theorem snakePiece_eq (h : IsSmallLetter c) : snakePiece c = [c] :=
  h.of_codes (p := fun c => snakePiece c = [c]) (by decide)

theorem snakePiece_toUpper (h : IsSmallLetter c) : snakePiece c.toUpper = ['_', c] :=
  h.of_codes (p := fun c => snakePiece c.toUpper = ['_', c]) (by decide)

end IsSmallLetter

theorem flatMap_snakePiece {cs : List Char} (h : ∀ c ∈ cs, IsSmallLetter c) :
    cs.flatMap snakePiece = cs := by
  induction cs with
  | nil => rfl
  | cons c cs ih =>
    rw [List.flatMap_cons, (h c List.mem_cons_self).snakePiece_eq,
      ih fun d hd => h d (List.mem_cons_of_mem _ hd)]
    rfl

structure Word where
  first : Char
  rest : List Char
  small : (first :: rest).all (IsSmallLetter ·) = true

namespace Word
variable (w : Word)

def letters : List Char := w.first :: w.rest

def capitalized : List Char := w.first.toUpper :: w.rest

theorem isSmallLetter_of_mem {c : Char} (h : c ∈ w.letters) : IsSmallLetter c :=
  of_decide_eq_true (List.all_eq_true.mp w.small c h)

theorem first_small : IsSmallLetter w.first := w.isSmallLetter_of_mem List.mem_cons_self

theorem rest_small {c : Char} (h : c ∈ w.rest) : IsSmallLetter c :=
  w.isSmallLetter_of_mem (List.mem_cons_of_mem _ h)

theorem isAscii_of_mem_letters {c : Char} (h : c ∈ w.letters) : IsAscii c :=
  (w.isSmallLetter_of_mem h).isAscii

theorem isAscii_of_mem_capitalized {c : Char} (h : c ∈ w.capitalized) : IsAscii c := by
  rcases List.mem_cons.mp h with rfl | h
  · exact w.first_small.isAscii_toUpper
  · exact (w.rest_small h).isAscii

theorem flatMap_rest : w.rest.flatMap snakePiece = w.rest :=
  flatMap_snakePiece fun _ hc => w.rest_small hc

end Word

/-- The ways to write several words as one key. -/
inductive Spelling where
  | snake
  | camel
  | pascal
  deriving DecidableEq, Repr

namespace Spelling

/-- The first word of a key. -/
def lead : Spelling → Word → List Char
  | .snake, w | .camel, w => w.letters
  | .pascal, w => w.capitalized

def follower : Spelling → Word → List Char
  | .snake, w => '_' :: w.letters
  | .camel, w | .pascal, w => w.capitalized

def key (spelling : Spelling) : List Word → String
  | [] => ""
  | w :: words => String.ofList (spelling.lead w ++ words.flatMap spelling.follower)

variable (spelling : Spelling) (w : Word)

theorem isAscii_of_mem_lead {c : Char} (h : c ∈ spelling.lead w) : IsAscii c := by
  cases spelling with
  | snake | camel => exact w.isAscii_of_mem_letters h
  | pascal => exact w.isAscii_of_mem_capitalized h

theorem isAscii_of_mem_follower {c : Char} (h : c ∈ spelling.follower w) : IsAscii c := by
  cases spelling with
  | snake =>
    rcases List.mem_cons.mp h with rfl | h
    · decide
    · exact w.isAscii_of_mem_letters h
  | camel | pascal => exact w.isAscii_of_mem_capitalized h

theorem flatMap_follower : (spelling.follower w).flatMap snakePiece = '_' :: w.letters := by
  cases spelling with
  | snake =>
    rw [follower, Word.letters, List.flatMap_cons, List.flatMap_cons, w.first_small.snakePiece_eq,
      w.flatMap_rest]
    rfl
  | camel | pascal =>
    rw [follower, Word.capitalized, List.flatMap_cons, w.first_small.snakePiece_toUpper,
      w.flatMap_rest]
    rfl

end Spelling

/-- Words have one form in snake_case, however they are spelled. -/
theorem snakeCase_key (spelling : Spelling) (words : List Word) :
    snakeCase (spelling.key words) = Spelling.snake.key words := by
  cases words with
  | nil =>
    show snakeCase "" = ""
    rfl
  | cons w words =>
    obtain ⟨c, hlead, hsmall⟩ : ∃ c, spelling.lead w = c :: w.rest ∧ c.toLower = w.first := by
      cases spelling with
      | snake | camel => exact ⟨w.first, rfl, w.first_small.toLower_eq⟩
      | pascal => exact ⟨w.first.toUpper, rfl, w.first_small.toLower_toUpper⟩
    have hascii : ∀ d ∈ spelling.lead w ++ words.flatMap spelling.follower, IsAscii d := by
      intro d hd
      rcases List.mem_append.mp hd with hd | hd
      · exact spelling.isAscii_of_mem_lead w hd
      · obtain ⟨v, -, hd⟩ := List.mem_flatMap.mp hd
        exact spelling.isAscii_of_mem_follower v hd
    calc snakeCase (String.ofList (spelling.lead w ++ words.flatMap spelling.follower))
      _ = String.ofList (snakeForm (spelling.lead w ++ words.flatMap spelling.follower)) := by
        rw [snakeCase_of_ascii (by rwa [String.toList_ofList]), String.toList_ofList]
      _ = String.ofList (c.toLower :: (w.rest ++ words.flatMap spelling.follower).flatMap
            snakePiece) := by rw [hlead, List.cons_append, snakeForm]
      _ = String.ofList (w.first :: (w.rest ++ words.flatMap fun v => '_' :: v.letters)) := by
        rw [hsmall, List.flatMap_append, w.flatMap_rest, List.flatMap_assoc]
        simp only [Spelling.flatMap_follower]

end TruncIdiom.Lint
