import Mathlib.Data.List.Forall2
import TruncIdiom.Proofs.Lint.Config
import TruncIdiom.Proofs.Lint.KeySpelling

/-!
Settings from a dictionary.

A key maps to the setting whose name is its snake_case form, and of several keys for one setting the
last one counts. `ReadsAs` says by cases what a dictionary comes to: its first key that maps to no
setting is refused; otherwise each setting has the value of its last key or the default, and the
severity and then the limit on passes that come out of this are refused where they are no good. The
cases say what the reading does (`ReadsAs.eq`), and every dictionary of well-typed values is one of
them (`exists_readsAs`), so `dictionary_reads_last_keys` has them as all that can happen. They speak
of settings and not of keys, so the spelling of a setting's name does not count, and the order of
keys counts between two of one setting only.
-/

namespace TruncIdiom.Lint

open Json

/-! ## Settings by name -/

inductive Setting where
  | severity
  | maxFixPasses
  | considerGetters
  | extensions
  | maxLines
  deriving DecidableEq, Repr

namespace Setting

def all : List Setting := [severity, maxFixPasses, considerGetters, extensions, maxLines]

def words : Setting → List Word
  | severity => [⟨'s', "everity".toList, by decide⟩]
  | maxFixPasses =>
    [⟨'m', "ax".toList, by decide⟩, ⟨'f', "ix".toList, by decide⟩, ⟨'p', "asses".toList, by decide⟩]
  | considerGetters => [⟨'c', "onsider".toList, by decide⟩, ⟨'g', "etters".toList, by decide⟩]
  | extensions => [⟨'e', "xtensions".toList, by decide⟩]
  | maxLines => [⟨'m', "ax".toList, by decide⟩, ⟨'l', "ines".toList, by decide⟩]

/-- The name of a setting: its words in snake_case. -/
def name (s : Setting) : String := Spelling.snake.key s.words

/-- Whether a value is of a setting's type. A truth value counts as a number. -/
def admits : Setting → Value → Bool
  | severity, .string _ => true
  | maxFixPasses, .int _ | maxFixPasses, .bool _ => true
  | considerGetters, .bool _ => true
  | extensions, .array items => items.all (·.kind = .string)
  | maxLines, .int _ | maxLines, .bool _ => true
  | _, _ => false

theorem find?_name (s : Setting) : all.find? (·.name = s.name) = some s := by
  cases s <;> decide

end Setting

/-- The setting that a key maps to. -/
def settingOf? (key : String) : Option Setting := Setting.all.find? (·.name = snakeCase key)

theorem settingOf?_eq_some_iff {key : String} {s : Setting} :
    settingOf? key = some s ↔ s.name = snakeCase key := by
  constructor
  · intro h
    have hname := List.find?_some (p := fun t : Setting => t.name = snakeCase key) h
    exact of_decide_eq_true hname
  · intro h
    rw [settingOf?, ← h]
    exact s.find?_name

theorem settingOf?_eq_none_iff {key : String} :
    settingOf? key = none ↔ ∀ s : Setting, s.name ≠ snakeCase key := by
  rw [Option.eq_none_iff_forall_ne_some]
  simp only [ne_eq, settingOf?_eq_some_iff]

/-- An ASCII key maps to the setting whose name is its form in snake_case. -/
theorem settingOf?_of_ascii {key : String} (h : ∀ c ∈ key.toList, IsAscii c) {s : Setting} :
    settingOf? key = some s ↔ s.name.toList = snakeForm key.toList := by
  rw [settingOf?_eq_some_iff, snakeCase_of_ascii h, ← String.toList_inj, String.toList_ofList]

theorem settingOf?_key (spelling : Spelling) (s : Setting) :
    settingOf? (spelling.key s.words) = some s :=
  settingOf?_eq_some_iff.mpr (snakeCase_key spelling s.words).symm

example : Spelling.snake.key Setting.maxFixPasses.words = "max_fix_passes" ∧
    Spelling.camel.key Setting.maxFixPasses.words = "maxFixPasses" ∧
    Spelling.pascal.key Setting.maxFixPasses.words = "MaxFixPasses" := by
  decide

def Settings.get (settings : Settings) : Setting → Value
  | .severity => settings.severity
  | .maxFixPasses => settings.maxFixPasses
  | .considerGetters => settings.considerGetters
  | .extensions => settings.extensions
  | .maxLines => settings.maxLines

def Config.get (config : Config) : Setting → Value
  | .severity => .string config.severity.label
  | .maxFixPasses => config.maxFixPasses
  | .considerGetters => config.considerGetters
  | .extensions => .array config.extensions
  | .maxLines => config.maxLines

theorem Settings.get_injective {settings settings' : Settings}
    (h : ∀ s, settings.get s = settings'.get s) : settings = settings' := by
  obtain ⟨severity, passes, getters, extensions, lines⟩ := settings
  obtain rfl : severity = _ := h .severity
  obtain rfl : passes = _ := h .maxFixPasses
  obtain rfl : getters = _ := h .considerGetters
  obtain rfl : extensions = _ := h .extensions
  obtain rfl : lines = _ := h .maxLines
  rfl

def Settings.put (settings : Settings) (value : Value) : Setting → Settings
  | .severity => { settings with severity := value }
  | .maxFixPasses => { settings with maxFixPasses := value }
  | .considerGetters => { settings with considerGetters := value }
  | .extensions => { settings with extensions := value }
  | .maxLines => { settings with maxLines := value }

theorem Settings.get_put (settings : Settings) (value : Value) (s t : Setting) :
    (settings.put value s).get t = if s = t then value else settings.get t := by
  cases s <;> cases t <;> rfl

theorem Settings.set?_name (settings : Settings) (s : Setting) (value : Value) :
    settings.set? s.name value = some (settings.put value s) := by
  cases s <;> rfl

theorem Settings.set?_eq_none (settings : Settings) {name : String}
    (h : ∀ s : Setting, s.name ≠ name) (value : Value) : settings.set? name value = none := by
  have hseverity : name ≠ "severity" := (h .severity).symm
  have hpasses : name ≠ "max_fix_passes" := (h .maxFixPasses).symm
  have hgetters : name ≠ "consider_getters" := (h .considerGetters).symm
  have hextensions : name ≠ "extensions" := (h .extensions).symm
  have hlines : name ≠ "max_lines" := (h .maxLines).symm
  simp [Settings.set?, hseverity, hpasses, hgetters, hextensions, hlines]

/-! ## The last key of a setting -/

abbrev Fields := List (String × Value)

def AllKnown (fields : Fields) : Prop := ∀ f ∈ fields, settingOf? f.1 ≠ none

/-- The value of the last key that maps to a setting. -/
def lastValue? (fields : Fields) (s : Setting) : Option Value :=
  (fields.reverse.find? fun f => settingOf? f.1 = some s).map Prod.snd

section
variable {fields fields' front back : Fields} {key : String} {value : Value} {s : Setting}

theorem lastValue?_cons (f : String × Value) (fields : Fields) (s : Setting) :
    lastValue? (f :: fields) s =
      (lastValue? fields s).or (if settingOf? f.1 = some s then some f.2 else none) := by
  rw [lastValue?, lastValue?, List.reverse_cons, List.find?_append, Option.map_or,
    List.find?_singleton]
  by_cases h : settingOf? f.1 = some s
  · simp only [h, decide_true, if_true, Option.map_some]
  · simp only [h, decide_false, Bool.false_eq_true, if_false, Option.map_none]

theorem exists_mem_of_lastValue? (h : lastValue? fields s = some value) :
    ∃ f ∈ fields, settingOf? f.1 = some s ∧ f.2 = value := by
  obtain ⟨f, hf, rfl⟩ := Option.map_eq_some_iff.mp h
  have hmem := List.mem_reverse.mp (List.mem_of_find?_eq_some hf)
  have hkey := List.find?_some (p := fun f : String × Value => settingOf? f.1 = some s) hf
  exact ⟨f, hmem, of_decide_eq_true hkey, rfl⟩

theorem Settings.ofFields_cons (settings : Settings) {f : String × Value}
    (h : settingOf? f.1 = some s) :
    settings.ofFields (f :: fields) = (settings.put f.2 s).ofFields fields := by
  rw [Settings.ofFields, ← settingOf?_eq_some_iff.mp h, Settings.set?_name]

/-- Setting one field after the other leaves each setting with the value of its last key. -/
theorem Settings.ofFields_of_known (h : AllKnown fields) (settings : Settings) :
    ∃ given, settings.ofFields fields = .ok given ∧
      ∀ s, given.get s = (lastValue? fields s).getD (settings.get s) := by
  induction fields generalizing settings with
  | nil => exact ⟨settings, rfl, fun _ => rfl⟩
  | cons f fields ih =>
    obtain ⟨s, hs⟩ := Option.ne_none_iff_exists'.mp (h f List.mem_cons_self)
    obtain ⟨given, hgiven, hget⟩ :=
      ih (fun g hg => h g (List.mem_cons_of_mem _ hg)) (settings.put f.2 s)
    refine ⟨given, (settings.ofFields_cons hs).trans hgiven, ?_⟩
    intro t
    rw [hget t, lastValue?_cons, Settings.get_put, hs]
    cases lastValue? fields t with
    | some later => rfl
    | none =>
      by_cases hst : s = t
      · simp [hst]
      · simp [hst]

/-- A key that maps to no setting is refused, whatever stands behind it. -/
theorem Settings.ofFields_of_unknown (hfront : AllKnown front) (hkey : settingOf? key = none)
    (settings : Settings) :
    settings.ofFields (front ++ (key, value) :: back) = .error (.unknownKey key) := by
  induction front generalizing settings with
  | nil =>
    rw [List.nil_append, Settings.ofFields,
      settings.set?_eq_none (settingOf?_eq_none_iff.mp hkey)]
  | cons f front ih =>
    obtain ⟨s, hs⟩ := Option.ne_none_iff_exists'.mp (hfront f List.mem_cons_self)
    rw [List.cons_append, settings.ofFields_cons hs]
    exact ih (fun g hg => hfront g (List.mem_cons_of_mem _ hg)) (settings.put f.2 s)

theorem exists_first_unknown (h : ¬ AllKnown fields) :
    ∃ front key value back, fields = front ++ (key, value) :: back ∧ AllKnown front ∧
      settingOf? key = none := by
  cases hfound : fields.find? fun f => settingOf? f.1 = none with
  | none =>
    apply absurd _ h
    intro f hf
    simpa using List.find?_eq_none.mp hfound f hf
  | some f =>
    obtain ⟨hf, front, back, rfl, hfront⟩ := List.find?_eq_some_iff_append.mp hfound
    refine ⟨front, f.1, f.2, back, rfl, ?_, of_decide_eq_true hf⟩
    intro g hg
    simpa using hfront g hg

/-! ## What a dictionary comes to -/

/-- What a setting comes to: the value of the last key that maps to it, or else the default. -/
def resulting (fields : Fields) (s : Setting) : Value :=
  (lastValue? fields s).getD (({} : Settings).get s)

/-- The number that a value counts as. -/
def count? : Value → Option Int
  | .int n => some n
  | .bool b => some (if b then 1 else 0)
  | _ => none

/-- What a dictionary comes to. No two of the cases hold of one dictionary. -/
inductive ReadsAs (fields : Fields) : Except ConfigError Config → Prop where
  /-- The first key that maps to no setting is refused. -/
  | unknownKey (front : Fields) (key : String) (value : Value) (back : Fields)
      (split : fields = front ++ (key, value) :: back) (known : AllKnown front)
      (unknown : settingOf? key = none) : ReadsAs fields (.error (.unknownKey key))
  /-- The severity that comes out is no known one. -/
  | unknownSeverity (label : String) (known : AllKnown fields)
      (given : resulting fields .severity = .string label)
      (unknown : ∀ severity : Severity, severity.label ≠ label) :
      ReadsAs fields (.error (.unknownSeverity label))
  /-- The severity that comes out is known, and the limit on passes is below one. -/
  | tooFewPasses (severity : Severity) (n : Int) (known : AllKnown fields)
      (given : resulting fields .severity = .string severity.label)
      (count : count? (resulting fields .maxFixPasses) = some n) (low : n < 1) :
      ReadsAs fields (.error .tooFewPasses)
  /-- Each setting has the value that comes out for it. -/
  | config (config : Config) (n : Int) (known : AllKnown fields)
      (values : ∀ s, config.get s = resulting fields s)
      (count : count? config.maxFixPasses = some n) (enough : 1 ≤ n) : ReadsAs fields (.ok config)

theorem severityOf_label (severity : Severity) :
    severityOf (.string severity.label) = .ok severity := by
  cases severity <;> rfl

theorem severityOf_of_unknown {label : String} (h : ∀ severity : Severity, severity.label ≠ label) :
    severityOf (.string label) = .error (.unknownSeverity label) := by
  have hnone : Severity.ofLabel? label = none := by
    rw [Severity.ofLabel?, List.find?_eq_none]
    intro severity _
    simpa using h severity
  simp only [severityOf, hnone]

theorem checkPasses_of_count {n : Int} (h : count? value = some n) :
    checkPasses value = if n < 1 then .error .tooFewPasses else .ok () := by
  cases value with
  | int m =>
    obtain rfl := Option.some.inj h
    simp [checkPasses]
  | bool b =>
    obtain rfl := Option.some.inj h
    cases b <;> rfl
  | _ => cases h

theorem ofValue_of_known (h : AllKnown fields) :
    ∃ given, Config.ofValue (.object fields) = Config.make given ∧
      ∀ s, given.get s = resulting fields s := by
  obtain ⟨given, hgiven, hget⟩ := Settings.ofFields_of_known h {}
  refine ⟨given, ?_, hget⟩
  rw [Config.ofValue, hgiven]
  rfl

theorem ofValue_of_unknown (hfront : AllKnown front) (hkey : settingOf? key = none) :
    Config.ofValue (.object (front ++ (key, value) :: back)) = .error (.unknownKey key) := by
  rw [Config.ofValue, Settings.ofFields_of_unknown hfront hkey]
  rfl

theorem ReadsAs.eq {result : Except ConfigError Config} (h : ReadsAs fields result) :
    Config.ofValue (.object fields) = result := by
  cases h with
  | unknownKey front key value back split known unknown =>
    rw [split]
    exact ofValue_of_unknown known unknown
  | unknownSeverity label known given unknown =>
    obtain ⟨settings, hread, hget⟩ := ofValue_of_known known
    have hseverity : settings.severity = .string label := (hget .severity).trans given
    rw [hread, Config.make, hseverity, severityOf_of_unknown unknown]
    rfl
  | tooFewPasses severity n known given count low =>
    obtain ⟨settings, hread, hget⟩ := ofValue_of_known known
    have hseverity : settings.severity = .string severity.label := (hget .severity).trans given
    have hpasses : count? settings.maxFixPasses = some n := by
      rw [← count, ← hget .maxFixPasses]
      rfl
    rw [hread, Config.make, hseverity, severityOf_label, checkPasses_of_count hpasses, if_pos low]
    rfl
  | config config n known values count enough =>
    obtain ⟨settings, hread, hget⟩ := ofValue_of_known known
    have hsame : ∀ s, settings.get s = config.get s := fun s => (hget s).trans (values s).symm
    have hseverity : settings.severity = .string config.severity.label := hsame .severity
    have hpasses : settings.maxFixPasses = config.maxFixPasses := hsame .maxFixPasses
    have hgetters : settings.considerGetters = config.considerGetters := hsame .considerGetters
    have hextensions : settings.extensions = .array config.extensions := hsame .extensions
    have hlines : settings.maxLines = config.maxLines := hsame .maxLines
    rw [hread, Config.make, hseverity, hpasses, hgetters, hextensions, hlines, severityOf_label,
      checkPasses_of_count count, if_neg (Int.not_lt.mpr enough)]
    rfl

def WellTyped (fields : Fields) : Prop :=
  ∀ f ∈ fields, (settingOf? f.1).all (·.admits f.2) = true

instance (fields : Fields) : Decidable (WellTyped fields) :=
  inferInstanceAs (Decidable (∀ f ∈ fields, (settingOf? f.1).all (·.admits f.2) = true))

theorem Setting.admits_default (s : Setting) : s.admits (({} : Settings).get s) = true := by
  cases s <;> decide

theorem WellTyped.admits_resulting (h : WellTyped fields) (s : Setting) :
    s.admits (resulting fields s) = true := by
  rw [resulting]
  cases hvalue : lastValue? fields s with
  | none => exact s.admits_default
  | some value =>
    obtain ⟨f, hf, hkey, rfl⟩ := exists_mem_of_lastValue? hvalue
    have hall := h f hf
    rw [hkey] at hall
    exact hall

theorem exists_label_of_admits (h : Setting.severity.admits value = true) :
    ∃ label, value = .string label := by
  cases value with
  | string label => exact ⟨label, rfl⟩
  | _ => cases h

theorem exists_count_of_admits (h : Setting.maxFixPasses.admits value = true) :
    ∃ n, count? value = some n := by
  cases value with
  | int n => exact ⟨n, rfl⟩
  | bool b => exact ⟨_, rfl⟩
  | _ => cases h

theorem exists_items_of_admits (h : Setting.extensions.admits value = true) :
    ∃ items, value = .array items := by
  cases value with
  | array items => exact ⟨items, rfl⟩
  | _ => cases h

theorem exists_readsAs (h : WellTyped fields) : ∃ result, ReadsAs fields result := by
  by_cases hknown : AllKnown fields
  · obtain ⟨label, hlabel⟩ := exists_label_of_admits (h.admits_resulting .severity)
    obtain ⟨n, hn⟩ := exists_count_of_admits (h.admits_resulting .maxFixPasses)
    obtain ⟨items, hitems⟩ := exists_items_of_admits (h.admits_resulting .extensions)
    by_cases hseverity : ∃ severity : Severity, severity.label = label
    · obtain ⟨severity, rfl⟩ := hseverity
      by_cases hlow : n < 1
      · exact ⟨_, .tooFewPasses severity n hknown hlabel hn hlow⟩
      · refine ⟨_, .config ⟨severity, resulting fields .maxFixPasses,
          resulting fields .considerGetters, items, resulting fields .maxLines⟩ n hknown ?_ hn
          (Int.not_lt.mp hlow)⟩
        intro s
        cases s with
        | severity => exact hlabel.symm
        | extensions => exact hitems.symm
        | _ => rfl
    · exact ⟨_, .unknownSeverity label hknown hlabel (not_exists.mp hseverity)⟩
  · obtain ⟨front, key, value, back, hsplit, hfront, hkey⟩ := exists_first_unknown hknown
    exact ⟨_, .unknownKey front key value back hsplit hfront hkey⟩

theorem ReadsAs.not_isKindError {error : ConfigError} (h : ReadsAs fields (.error error)) :
    error.isKindError = false := by
  cases h <;> rfl

/-! ## Spellings and order -/

/-- Whether two fields have one value, and one key or two spellings of the name of one setting. -/
def Respelled (f g : String × Value) : Prop :=
  f.2 = g.2 ∧ (f.1 = g.1 ∨ ∃ (s : Setting) (spelling spelling' : Spelling),
    f.1 = spelling.key s.words ∧ g.1 = spelling'.key s.words)

theorem Settings.ofFields_respelled (h : List.Forall₂ Respelled fields fields')
    (settings : Settings) : settings.ofFields fields' = settings.ofFields fields := by
  induction h generalizing settings with
  | nil => rfl
  | @cons f g fields fields' hfields _ ih =>
    obtain ⟨hvalue, hkey | ⟨s, spelling, spelling', hspelled, hspelled'⟩⟩ := hfields
    · rw [Settings.ofFields, Settings.ofFields, ← hkey, ← hvalue]
      cases settings.set? (snakeCase f.1) f.2 with
      | none => rfl
      | some settings => exact ih settings
    · have hf : settingOf? f.1 = some s := hspelled ▸ settingOf?_key spelling s
      have hg : settingOf? g.1 = some s := hspelled' ▸ settingOf?_key spelling' s
      rw [settings.ofFields_cons hf, settings.ofFields_cons hg, hvalue]
      exact ih (settings.put g.2 s)

/-- Whether no two keys map to one setting. -/
def Unshared (fields : Fields) : Prop := (fields.filterMap fun f => settingOf? f.1).Nodup

theorem lastValue?_eq_some_iff (h : Unshared fields) :
    lastValue? fields s = some value ↔ ∃ f ∈ fields, settingOf? f.1 = some s ∧ f.2 = value := by
  refine ⟨exists_mem_of_lastValue?, ?_⟩
  rintro ⟨f, hf, hkey, rfl⟩
  induction fields with
  | nil => cases hf
  | cons g fields ih =>
    rw [lastValue?_cons]
    rcases List.mem_cons.mp hf with rfl | hf
    · have hlater : lastValue? fields s = none := by
        rw [Option.eq_none_iff_forall_ne_some]
        intro value hvalue
        obtain ⟨g, hg, hsame, -⟩ := exists_mem_of_lastValue? hvalue
        simp only [Unshared, List.filterMap_cons, hkey, List.nodup_cons] at h
        exact h.1 (List.mem_filterMap.mpr ⟨g, hg, hsame⟩)
      rw [hlater, if_pos hkey]
      rfl
    · have hrest : Unshared fields := h.sublist ((List.sublist_cons_self g fields).filterMap _)
      rw [ih hrest hf]
      rfl

theorem lastValue?_perm (hperm : fields.Perm fields') (h : Unshared fields) (s : Setting) :
    lastValue? fields' s = lastValue? fields s := by
  have h' : Unshared fields' := (hperm.filterMap _).nodup_iff.mp h
  apply Option.ext
  intro value
  rw [lastValue?_eq_some_iff h, lastValue?_eq_some_iff h']
  simp only [hperm.mem_iff]

theorem ofValue_perm (hperm : fields.Perm fields') (h : Unshared fields)
    (hknown : AllKnown fields) :
    Config.ofValue (.object fields') = Config.ofValue (.object fields) := by
  have hknown' : AllKnown fields' := fun f hf => hknown f (hperm.mem_iff.mpr hf)
  obtain ⟨given, hread, hget⟩ := ofValue_of_known hknown
  obtain ⟨given', hread', hget'⟩ := ofValue_of_known hknown'
  obtain rfl : given' = given := by
    apply Settings.get_injective
    intro s
    rw [hget, hget', resulting, resulting, lastValue?_perm hperm h]
  rw [hread, hread']

theorem allKnown_of_ofValue {config : Config} (h : Config.ofValue (.object fields) = .ok config) :
    AllKnown fields := by
  by_contra hunknown
  obtain ⟨front, key, value, back, rfl, hfront, hkey⟩ := exists_first_unknown hunknown
  rw [ofValue_of_unknown hfront hkey] at h
  cases h

end

/-- A dictionary of well-typed values is read as the cases of `ReadsAs` say and in no other way, and
it is refused for what it says and not for the kind of a value. An ASCII key maps to the setting
whose name is its form in snake_case. The spelling of a setting's name makes no difference, and
neither does the order of keys of which no two map to one setting. -/
theorem dictionary_reads_last_keys (fields : Fields) (htyped : WellTyped fields) :
    (∀ result, Config.ofValue (.object fields) = result ↔ ReadsAs fields result) ∧
      (∀ error, Config.ofValue (.object fields) = .error error → error.isKindError = false) ∧
      (∀ key : String, (∀ c ∈ key.toList, IsAscii c) → ∀ s,
        settingOf? key = some s ↔ s.name.toList = snakeForm key.toList) ∧
      (∀ fields', List.Forall₂ Respelled fields fields' →
        Config.ofValue (.object fields') = Config.ofValue (.object fields)) ∧
      ∀ fields', fields.Perm fields' → Unshared fields → ∀ config,
        Config.ofValue (.object fields') = .ok config ↔
          Config.ofValue (.object fields) = .ok config := by
  have hreads : ReadsAs fields (Config.ofValue (.object fields)) := by
    obtain ⟨result, hresult⟩ := exists_readsAs htyped
    rwa [hresult.eq]
  refine ⟨fun result => ⟨fun h => h ▸ hreads, ReadsAs.eq⟩, ?_, ?_, ?_, ?_⟩
  · intro error herror
    rw [herror] at hreads
    exact hreads.not_isKindError
  · intro key hascii s
    exact settingOf?_of_ascii hascii
  · intro fields' hrespelled
    rw [Config.ofValue, Config.ofValue, Settings.ofFields_respelled hrespelled]
  · intro fields' hperm hunshared config
    constructor
    · intro h
      have hknown : AllKnown fields := fun f hf => allKnown_of_ofValue h f (hperm.mem_iff.mp hf)
      rwa [← ofValue_perm hperm hunshared hknown]
    · intro h
      rwa [ofValue_perm hperm hunshared (allKnown_of_ofValue h)]

/-- A limit on passes that is too low, and set again by a later key. -/
def twiceSet : Fields :=
  [("maxFixPasses", .int 0), ("Severity", .string "warn"), ("max_fix_passes", .int 7)]

theorem dictionary_reads_last_keys_twiceSet :
    WellTyped twiceSet ∧ ReadsAs twiceSet (.ok ⟨.warn, .int 7, .bool false,
      Config.default.extensions, .int 100000⟩) := by
  have htyped : WellTyped twiceSet := by decide +kernel
  exact ⟨htyped, ((dictionary_reads_last_keys twiceSet htyped).1 _).mp rfl⟩

end TruncIdiom.Lint
