import TruncIdiom.Lint.Config

/-!
Configurations that were made.

A configuration comes from settings that pass their checks. `Config.of_make` says what it takes from
them, and what follows is derived from that: a limit on passes allows one at least, and an extension
that is no text was an item of a list. A list of texts can always be used as extensions.
-/

namespace TruncIdiom.Lint

open Json

/-! ## Steps that may fail -/

section Steps

variable {ε ε' α β : Type} {x : Except ε α} {a : α} {b : β}

theorem exists_of_bind_eq_ok {f : α → Except ε β} (h : (x >>= f) = .ok b) :
    ∃ a, x = .ok a ∧ f a = .ok b := by
  cases x with
  | error e => cases h
  | ok a => exact ⟨a, rfl, h⟩

theorem exists_of_map_eq_ok {f : α → β} (h : x.map f = .ok b) : ∃ a, x = .ok a ∧ f a = b := by
  cases x with
  | error e => cases h
  | ok a => exact ⟨a, rfl, Except.ok.inj h⟩

theorem eq_ok_of_mapError {f : ε → ε'} (h : x.mapError f = .ok a) : x = .ok a := by
  cases x with
  | error e => cases h
  | ok a' => exact congrArg Except.ok (Except.ok.inj h)

end Steps

variable {settings : Settings} {config : Config} {extensions : List Value}

/-! ## What a configuration has from its settings -/

theorem Config.of_make (h : Config.make settings = .ok config) :
    severityOf settings.severity = .ok config.severity ∧
      checkPasses settings.maxFixPasses = .ok () ∧
      extensionsOf settings.extensions = .ok config.extensions ∧
      config.maxFixPasses = settings.maxFixPasses := by
  rw [Config.make] at h
  obtain ⟨severity, hseverity, h⟩ := exists_of_bind_eq_ok h
  obtain ⟨_, hpasses, h⟩ := exists_of_bind_eq_ok h
  obtain ⟨extensions, hextensions, h⟩ := exists_of_bind_eq_ok h
  obtain rfl := Except.ok.inj h
  exact ⟨hseverity, hpasses, hextensions, rfl⟩

theorem Config.one_le_of_make {limit : Nat} (h : Config.make settings = .ok config)
    (hlimit : config.passLimit = .ok limit) : 1 ≤ limit := by
  obtain ⟨-, hpasses, -, hsame⟩ := Config.of_make h
  rw [Config.passLimit, hsame] at hlimit
  cases hvalue : settings.maxFixPasses with
  | int n =>
    rw [hvalue] at hlimit hpasses
    obtain rfl := Except.ok.inj hlimit
    simp only [checkPasses, decide_eq_true_eq] at hpasses
    split at hpasses
    · cases hpasses
    · omega
  | bool b =>
    rw [hvalue] at hlimit hpasses
    cases b with
    | false => cases hpasses
    | true => exact Nat.le_of_eq (Except.ok.inj hlimit)
  | _ =>
    rw [hvalue] at hlimit
    cases hlimit

theorem Config.made_of_ofValue {value : Value} (h : Config.ofValue value = .ok config) :
    ∃ settings, Config.make settings = .ok config := by
  cases value with
  | object fields =>
    obtain ⟨settings, -, hmade⟩ := exists_of_bind_eq_ok h
    exact ⟨settings, hmade⟩
  | _ => cases h

/-! ## Extensions -/

def Texts (values : List Value) : Prop := ∀ value ∈ values, ∃ text, value = .string text

theorem Texts.tail {value : Value} (h : Texts (value :: extensions)) : Texts extensions :=
  fun other hother => h other (List.mem_cons_of_mem _ hother)

theorem texts_map_string {α : Type} (f : α → String) (xs : List α) :
    Texts (xs.map fun x => .string (f x)) := by
  intro value hvalue
  obtain ⟨x, -, rfl⟩ := List.mem_map.mp hvalue
  exact ⟨f x, rfl⟩

/-- Only a list can give extensions that are no texts. -/
theorem texts_or_eq_array {value : Value} (h : extensionsOf value = .ok extensions) :
    Texts extensions ∨ value = .array extensions := by
  cases value with
  | array items => exact .inr (congrArg Value.array (Except.ok.inj h))
  | string s => exact .inl (Except.ok.inj h ▸ texts_map_string _ _)
  | object fields => exact .inl (Except.ok.inj h ▸ texts_map_string _ _)
  | _ => cases h

theorem extensionTexts_of_texts (h : Texts extensions) (index : Nat) :
    ∃ texts, extensionTexts index extensions = .ok texts := by
  induction extensions generalizing index with
  | nil => exact ⟨[], rfl⟩
  | cons value rest ih =>
    obtain ⟨text, rfl⟩ := h value List.mem_cons_self
    obtain ⟨texts, htexts⟩ := ih h.tail (index + 1)
    exact ⟨text :: texts, by rw [extensionTexts, htexts]; rfl⟩

theorem texts_of_extensionTexts {index : Nat} {texts : List String}
    (h : extensionTexts index extensions = .ok texts) : Texts extensions := by
  induction extensions generalizing index texts with
  | nil => exact fun _ hvalue => absurd hvalue List.not_mem_nil
  | cons value rest ih =>
    cases value with
    | string text =>
      obtain ⟨texts, hrest, -⟩ := exists_of_bind_eq_ok h
      intro other hother
      rcases List.mem_cons.mp hother with rfl | hother
      · exact ⟨text, rfl⟩
      · exact ih hrest other hother
    | _ => cases h

theorem endsWithAny_of_texts (h : Texts extensions) (chars : List Char) :
    ∃ ends, endsWithAny chars extensions = .ok ends := by
  induction extensions with
  | nil => exact ⟨false, rfl⟩
  | cons value rest ih =>
    obtain ⟨text, rfl⟩ := h value List.mem_cons_self
    rw [endsWithAny]
    split
    · exact ⟨true, rfl⟩
    · exact ih h.tail

end TruncIdiom.Lint
