import TruncIdiom.Proofs.Lint.Exactness
import TruncIdiom.Proofs.Lint.RuleIndependence
import TruncIdiom.Proofs.Rule.EffectSearch
import TruncIdiom.Proofs.Session.Outcome
import TruncIdiom.Proofs.Syntax.Covering

/-!
The side effect that is named is the one the check saw.

A message without a fix or a suggestion is about an assignment whose target has an effect. Its span
is all that is left of the node, and the way down by the span leads back to that node and no other:
the operator and the zero are two children of some width, so no child covers the assignment
(`narrowed_of_bitwiseZero`). The check reads the setting on getters from the linter, which was made
when the configuration was last replaced, and the explanation from the configuration itself;
`keptLinter_eq` says that no event lets them part. So the search of the explanation is that of the
check (`culprit_seen`).
-/

namespace TruncIdiom.Session

open Text Syntax Rule Lint Workspace

variable {s : Session} {parser : Parser} {root : Root} {path : String} {source : Bytes}
  {linter : Linter} {l left right : Location} {m : Message}

/-! ## The linter beside the configuration -/

/-- The linter that is kept after an event: a new one where the configuration is replaced, and the
one there was elsewhere. -/
def relinted (s : Session) (parser : Parser) (kept : Linter) : Event → Linter
  | .call (.setWorkspace path) =>
    if s.files.isFolder path then
      match loadConfig? s.files path with
      | .ok (some config) => ⟨parser, defaultRules, config⟩
      | _ => kept
    else kept
  | .call (.configure severity maxFixPasses considerGetters) =>
    match Config.make (settingsOf severity maxFixPasses considerGetters) with
    | .ok config => ⟨parser, defaultRules, config⟩
    | .error _ => kept
  | _ => kept

def keptLinter (s : Session) (parser : Parser) (kept : Linter) : List Event → Linter
  | [] => kept
  | event :: events =>
    keptLinter (s.next parser event) parser (relinted s parser kept event) events

theorem relinted_eq (s : Session) (parser : Parser) (event : Event) :
    relinted s parser (s.linter parser) event = (s.next parser event).linter parser := by
  cases event with
  | write place content => rfl
  | erase place => rfl
  | call call =>
    have heffect := effect_call s parser call
    cases call with
    | setWorkspace path =>
      rw [relinted, next, Session.call, setWorkspace]
      cases s.files.isFolder path with
      | false => rfl
      | true =>
        cases loadConfig? s.files path with
        | error e => rfl
        | ok loaded => cases loaded <;> rfl
    | configure severity maxFixPasses considerGetters =>
      rw [relinted, next, Session.call, configure]
      cases Config.make (settingsOf severity maxFixPasses considerGetters) with
      | ok config => rfl
      | error e =>
        dsimp only
        split <;> rfl
    | _ =>
      rw [next]
      generalize (s.call parser _).2 = s' at heffect ⊢
      cases heffect <;> rfl

theorem keptLinter_eq (s : Session) (parser : Parser) (events : List Event) :
    keptLinter s parser (s.linter parser) events = (s.run parser events).linter parser := by
  induction events generalizing s with
  | nil => rfl
  | cons event events ih =>
    rw [keptLinter, relinted_eq]
    exact ih (s.next parser event)

/-! ## Messages without a remedy -/

/-- A message without a remedy is about an assignment to a target with an effect. -/
theorem guarded_of_messagesAt (hl : l.whole.Nested)
    (hm : m ∈ linter.messagesAt source l truncationRule) (hfix : m.fix = none)
    (hsuggestions : m.suggestions = []) :
    m.start = l.info.start ∧ m.stop = l.info.stop ∧ l.kind = compoundAssignment ∧
      ∃ left right, BitwiseZero source l left right ∧
        hasSideEffect source linter.config.gettersCount left.tree = true := by
  obtain ⟨d, hd, rfl⟩ := List.mem_map.mp hm
  cases reports_of_mem_reportsAt hl hd with
  | guarded idiom assigns effect => exact ⟨rfl, rfl, assigns, _, _, idiom, effect⟩
  | suggested => cases hsuggestions
  | assigned | replaced | doubled => cases hfix

/-- The way down by the span of an operation with zero leads to that operation. -/
theorem narrowed_of_bitwiseZero (hl : l.whole.Nested) (h : BitwiseZero source l left right) :
    (Location.mk l.whole []).narrowed l.info.start l.info.stop = l := by
  have htext := (Idiom.zero h).operatorText_ne_empty
  obtain ⟨operator, hoperator, hsign⟩ := Location.exists_operator htext
  obtain ⟨value, hvalue, hstart, hstop⟩ := Location.inside_of_operand? hl h.onRight
  have hzero : right.info.start < right.info.stop :=
    NodeInfo.start_lt_stop (by rw [h.zero.2]; decide)
  obtain ⟨hoperatorMem, hoperatorField⟩ := Location.of_childInField? hoperator
  obtain ⟨hvalueMem, hvalueField⟩ := Location.of_childInField? hvalue
  have hne : operator ≠ value := by
    rintro rfl
    rw [hoperatorField] at hvalueField
    exact absurd hvalueField (by decide)
  refine Location.narrowed_eq_of_uncovered hl (Location.start_lt_stop_of_operatorText hl htext) ?_
  exact Location.uncovered_of_two hl hoperatorMem hvalueMem hne hsign (by omega)

section
variable {tree : Tree} {l' : Location}

/-- The span of a message without a remedy leads to the place it was reported at. -/
theorem narrowed_of_messagesAt (hnested : tree.Nested) (hplace : l ∈ tree.places [])
    (hm : m ∈ linter.messagesAt source l truncationRule) (hfix : m.fix = none)
    (hsuggestions : m.suggestions = []) :
    (Location.mk tree []).narrowed m.start m.stop = l := by
  have hwhole : l.whole = tree := mem_places_iff.mp hplace
  subst hwhole
  obtain ⟨hstart, hstop, -, left, right, hzero, -⟩ :=
    guarded_of_messagesAt hnested hm hfix hsuggestions
  rw [hstart, hstop]
  exact narrowed_of_bitwiseZero hnested hzero

theorem eq_of_messagesAt (hnested : tree.Nested) (hplace : l ∈ tree.places [])
    (hplace' : l' ∈ tree.places []) (hm : m ∈ linter.messagesAt source l truncationRule)
    (hm' : m ∈ linter.messagesAt source l' truncationRule) (hfix : m.fix = none)
    (hsuggestions : m.suggestions = []) : l' = l := by
  have hback := narrowed_of_messagesAt hnested hplace hm hfix hsuggestions
  have hback' := narrowed_of_messagesAt hnested hplace' hm' hfix hsuggestions
  exact hback'.symm.trans hback

theorem enclosing?_of_messagesAt (hnested : tree.Nested) (hplace : l ∈ tree.places [])
    (hm : m ∈ linter.messagesAt source l truncationRule) (hfix : m.fix = none)
    (hsuggestions : m.suggestions = []) :
    ((Location.mk tree []).narrowed m.start m.stop).enclosing? (isAssignmentAt m.start m.stop) =
      some l := by
  have hl : l.whole.Nested := by rwa [mem_places_iff.mp hplace]
  obtain ⟨hstart, hstop, hkind, -⟩ := guarded_of_messagesAt hl hm hfix hsuggestions
  rw [narrowed_of_messagesAt hnested hplace hm hfix hsuggestions]
  apply Location.enclosing?_self
  rw [isAssignmentAt, Bool.and_eq_true, Bool.and_eq_true, decide_eq_true_iff, decide_eq_true_iff,
    decide_eq_true_iff]
  exact ⟨⟨hkind, hstart.symm⟩, hstop.symm⟩

end

theorem exists_descend?_of_effectAt {getters : Bool} {way : List Nat} {effect : Tree}
    (h : EffectAt source getters l.tree way effect) :
    ∃ place, l.descend? way = some place ∧ place.tree = effect := by
  generalize ht : l.tree = t at h
  induction h generalizing l with
  | itself _ => exact ⟨l, rfl, ht⟩
  | @within t part effect n way _ hnumbered _ ih =>
    have hpart : (l.children.map (·.tree))[n]? = some part := by
      rw [Location.children, Location.map_tree_siblingsFrom, ht]
      exact getElem?_of_mem_numberedParts hnumbered
    rw [List.getElem?_map] at hpart
    obtain ⟨child, hchild, htree⟩ := Option.map_eq_some_iff.mp hpart
    obtain ⟨place, hplace, heffect⟩ := ih htree
    refine ⟨place, ?_, heffect⟩
    rw [Location.descend?, hchild]
    exact hplace

/-! ## The side effect that is named -/

def sideEffectReason (text : String) : String :=
  "No fix is offered: the assignment target has side effects" ++
    (if text = "" then "" else " (`" ++ text ++ "`)") ++
    ", so restating it in `Math.trunc(...)` would evaluate it twice."

/-- A side effect that is named for a message in a file: the assignment that the message was
reported on and no other is found again, and the effect is the one that the check saw in its
target. -/
structure Names (s : Session) (parser : Parser) (linter : Linter) (root : Root) (path : String)
    (source : Bytes) (m : Message) (l target : Location) (way : List Nat) (effect : Tree) :
    Prop where
  place : l ∈ (parser source).places []
  reported : ∀ l' ∈ (parser source).places [],
    m ∈ linter.messagesAt source l' truncationRule ↔ l' = l
  kind : l.kind = "augmented_assignment_expression"
  again : ((Location.mk (parser source) []).narrowed m.start m.stop).enclosing?
    (isAssignmentAt m.start m.stop) = some l
  operand : l.operand? "left" = some target
  seen : firstEffect? source linter.config.gettersCount target.tree = some effect
  evaluated : EffectAt source linter.config.gettersCount target.tree way effect
  below : ∃ place, target.descend? way = some place ∧ place.tree = effect
  text : s.culprit parser root path m = effect.info.text source
  reason : s.noFixReason parser root path m = sideEffectReason (effect.info.text source)

/-- Once the assignment is found, its target is searched under the configuration. -/
theorem culprit_of_enclosing? {target : Location}
    (hsource : s.files.readSource? (root.resolve path) = some source)
    (hagain : ((Location.mk (parser source) []).narrowed m.start m.stop).enclosing?
      (isAssignmentAt m.start m.stop) = some l)
    (htarget : l.operand? "left" = some target) :
    s.culprit parser root path m =
      describeSideEffect source s.config.gettersCount target.tree := by
  rw [culprit, hsource]
  simp only [culpritIn, assignmentTarget?, hagain, Option.bind_some, htarget]

/-- In every session that a run leads to, and for every message of a file that has neither a fix nor
a suggestion, the assignment it was reported on is found again, and the effect in its target is
named that kept it from a fix. -/
theorem culprit_seen {files : FileMap} {events : List Event}
    (hs : s = (start files).run parser events)
    (hlinter : linter = keptLinter (start files) parser ⟨parser, defaultRules, .default⟩ events)
    (hsource : s.files.readSource? (root.resolve path) = some source)
    (herror : (parser source).hasError = false) (hnested : (parser source).Nested)
    (hm : m ∈ (lintFile linter s.files (root.resolve path)).messages)
    (hfix : m.fix = none) (hsuggestions : m.suggestions = []) :
    ∃ l target way effect, Names s parser linter root path source m l target way effect := by
  have hsame : linter = s.linter parser := by
    rw [hlinter, hs]
    exact keptLinter_eq (start files) parser events
  subst hsame
  rw [lintFile, hsource] at hm
  have hfound : m ∈ (s.linter parser).found source (parser source) := by
    rcases mem_messages hm with ⟨herror', -⟩ | hfound
    · exact absurd (herror'.symm.trans herror) (by decide)
    · exact hfound
  rw [found_eq_flatMap rfl, List.mem_flatMap] at hfound
  obtain ⟨l, hplace, hreported⟩ := hfound
  have hl : l.whole.Nested := by rwa [mem_places_iff.mp hplace]
  obtain ⟨-, -, hkind, target, right, hzero, hguard⟩ :=
    guarded_of_messagesAt hl hreported hfix hsuggestions
  have hagain := enclosing?_of_messagesAt hnested hplace hreported hfix hsuggestions
  obtain ⟨effect, hseen⟩ := Option.isSome_iff_exists.mp hguard
  obtain ⟨way, heffect, -⟩ := first_of_firstEffect? hseen
  have htext : s.culprit parser root path m = effect.info.text source := by
    -- The configuration that the search reads is the one the linter was made with.
    have hsearch : firstEffect? source s.config.gettersCount target.tree = some effect := hseen
    rw [culprit_of_enclosing? hsource hagain hzero.onLeft, describeSideEffect, hsearch]
  refine ⟨l, target, way, effect, ?_⟩
  constructor
  case place => exact hplace
  case reported =>
    intro l' hplace'
    constructor
    · intro hreported'
      exact eq_of_messagesAt hnested hplace hplace' hreported hreported' hfix hsuggestions
    · rintro rfl
      exact hreported
  case kind => exact hkind
  case again => exact hagain
  case operand => exact hzero.onLeft
  case seen => exact hseen
  case evaluated => exact heffect
  case below => exact exists_descend?_of_effectAt heffect
  case text => exact htext
  case reason =>
    rw [noFixReason, hsuggestions]
    simp only [htext]
    rfl

/-- A file with an assignment to a property. -/
def propertyFile : FileMap := ⟨[(["a.js"], encode "x; (a.b) >>= 0")], []⟩

/-- A workspace whose linter takes the reading of a property for a side effect. -/
def gettersCounted : List Event := [
  .call (.setWorkspace "."), .call (.configure (.string "warn") (.int 10) (.bool true))]

/-- With getters counted the property that is read is named. -/
theorem culprit_seen_property :
    let s := (start propertyFile).run Script.parse gettersCounted
    let linter := keptLinter (start propertyFile) Script.parse
      ⟨Script.parse, defaultRules, .default⟩ gettersCounted
    let root : Root := ⟨".", .int 100000⟩
    ∃ m ∈ (lintFile linter s.files (root.resolve "a.js")).messages,
      m.fix = none ∧ m.suggestions = [] ∧ s.culprit Script.parse root "a.js" m = "a.b" ∧
      ∃ l target way effect, Names s Script.parse linter root "a.js" (encode "x; (a.b) >>= 0") m l
        target way effect := by
  intro s linter root
  have hculprits : (lintFile linter s.files (root.resolve "a.js")).messages.map
      (fun m => (m.fix.isSome, m.suggestions, s.culprit Script.parse root "a.js" m)) =
        [(false, [], "a.b")] := by decide +kernel
  obtain ⟨m, hm, hculprit⟩ := List.map_eq_singleton_iff.mp hculprits
  simp only [Prod.mk.injEq, Option.isSome_eq_false_iff, Option.isNone_iff_eq_none] at hculprit
  obtain ⟨hfix, hsuggestions, htext⟩ := hculprit
  have hmem : m ∈ (lintFile linter s.files (root.resolve "a.js")).messages :=
    hm ▸ List.mem_singleton_self m
  exact ⟨m, hmem, hfix, hsuggestions, htext,
    culprit_seen rfl rfl (by decide +kernel) (by decide +kernel) (by decide +kernel) hmem hfix
      hsuggestions⟩

end TruncIdiom.Session
