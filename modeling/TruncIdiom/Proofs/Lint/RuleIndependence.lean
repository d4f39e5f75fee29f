import TruncIdiom.Proofs.Lint.Messages
import TruncIdiom.Proofs.Text.Position

/-!
Rules side by side.

`turns` writes down which check is called when: place by place in preorder, and at one place rule by
rule, entry by entry and kind by kind. The messages of a source are what these calls report, put in
order and left as they stood where they tie. As the order only looks at places, the messages of one
rule stand as they would alone (`messages_of_each_rule`). A rule is known by its number in the list,
for two rules may have one name. Whether a check gives up after its reports changes nothing.
-/

namespace TruncIdiom

open Text Syntax Rule Collection

namespace Lint

/-- A call of a check: the number of the rule it is for, and the place it looks at. -/
structure Turn where
  number : Nat
  info : RuleInfo
  check : Check
  place : Location

def Turn.run (turn : Turn) (ctx : CheckContext) : CheckRun := turn.check ctx turn.place

namespace Linter

/-- The calls of checks at one place. A kind that an entry lists twice is a call more. -/
def turnsAt (linter : Linter) (place : Location) : List Turn :=
  linter.rules.zipIdx.flatMap fun (rule, number) =>
    rule.entries.flatMap fun entry =>
      (entry.kinds.filter (· = place.kind)).map fun _ => ⟨number, rule.info, entry.check, place⟩

/-- The calls of checks over a tree. -/
def turns (linter : Linter) (tree : Tree) : List Turn := (tree.places []).flatMap linter.turnsAt

/-- The messages of one call, each with the number of its rule. -/
def told (linter : Linter) (source : Bytes) (turn : Turn) : List (Nat × Message) :=
  (turn.run (linter.context source)).reported.map fun d =>
    (turn.number, d.message turn.info source linter.config.level)

/-- The messages of all calls over a tree, as they come. -/
def tellings (linter : Linter) (source : Bytes) (tree : Tree) : List (Nat × Message) :=
  (linter.turns tree).flatMap (linter.told source)

def alone (linter : Linter) (rule : Rule) : Linter := { linter with rules := [rule] }

end Linter

end Lint

namespace Rule

/-- The check that reports the same and never gives up. -/
def Check.unfailing (check : Check) : Check := fun ctx place =>
  { reported := (check ctx place).reported }

def Entry.unfailing (entry : Entry) : Entry := { entry with check := entry.check.unfailing }

end Rule

def Rule.unfailing (rule : Rule) : Rule :=
  { rule with entries := rule.entries.map Rule.Entry.unfailing }

namespace Lint

def Linter.unfailing (linter : Linter) : Linter :=
  { linter with rules := linter.rules.map Rule.unfailing }

/-! ## Results by number -/

section
variable {α β : Type}

/-- The results of numbered elements, each with the number of its element. -/
def resultsByNumber (f : α → List β) (xs : List (α × Nat)) : List (Nat × β) :=
  xs.flatMap fun x => (f x.1).map fun y => (x.2, y)

theorem resultsByNumber_cons (f : α → List β) (x : α × Nat) (xs : List (α × Nat)) :
    resultsByNumber f (x :: xs) = ((f x.1).map fun y => (x.2, y)) ++ resultsByNumber f xs :=
  List.flatMap_cons

theorem le_of_mem_resultsByNumber {f : α → List β} {xs : List α} {start : Nat} {result : Nat × β}
    (h : result ∈ resultsByNumber f (xs.zipIdx start)) : start ≤ result.1 := by
  obtain ⟨x, hx, hresult⟩ := List.mem_flatMap.mp h
  obtain ⟨y, -, rfl⟩ := List.mem_map.mp hresult
  exact (List.mem_zipIdx hx).1

theorem filter_resultsByNumber (f : α → List β) (xs : List α) (start number : Nat) :
    (resultsByNumber f (xs.zipIdx start)).filter (·.1 = start + number) =
      (xs[number]?.toList.flatMap f).map fun y => (start + number, y) := by
  induction xs generalizing start number with
  | nil => rfl
  | cons x xs ih =>
    rw [List.zipIdx_cons, resultsByNumber_cons, List.filter_append]
    cases number with
    | zero =>
      -- All results of the first element have the number, and no later one.
      have hfirst : ((f x).map fun y => (start, y)).filter (·.1 = start + 0) =
          (f x).map fun y => (start, y) := by simp
      have hrest : (resultsByNumber f (xs.zipIdx (start + 1))).filter (·.1 = start + 0) = [] := by
        rw [List.filter_eq_nil_iff]
        intro result hresult
        have hle := le_of_mem_resultsByNumber hresult
        simp only [decide_eq_true_eq]
        omega
      rw [hfirst, hrest]
      simp
    | succ number =>
      have hfirst : ((f x).map fun y => (start, y)).filter (·.1 = start + (number + 1)) = [] := by
        simp
      have hshift : start + (number + 1) = start + 1 + number := by omega
      rw [hfirst, List.nil_append, List.getElem?_cons_succ, hshift]
      exact ih (start + 1) number

theorem map_snd_resultsByNumber (f : α → List β) (xs : List α) (start : Nat) :
    (resultsByNumber f (xs.zipIdx start)).map (·.2) = xs.flatMap f := by
  induction xs generalizing start with
  | nil => rfl
  | cons x xs ih =>
    have hfirst : ((f x).map fun y => (start, y)).map (·.2) = f x := by
      simp only [List.map_map, Function.comp_def, List.map_id']
    rw [List.zipIdx_cons, resultsByNumber_cons, List.map_append, ih, List.flatMap_cons, hfirst]

end

variable {linter : Linter} {source : Bytes} {rule : Rule} {number : Nat}

/-! ## One place -/

def Linter.messagesAt (linter : Linter) (source : Bytes) (place : Location) (rule : Rule) :
    List Message :=
  (rule.reportsAt (linter.context source) place).map
    (·.message rule.info source linter.config.level)

theorem flatMap_told_turnsAt (linter : Linter) (source : Bytes) (place : Location) :
    (linter.turnsAt place).flatMap (linter.told source) =
      resultsByNumber (linter.messagesAt source place) linter.rules.zipIdx := by
  unfold Linter.turnsAt resultsByNumber
  rw [List.flatMap_assoc]
  congr 1
  funext ⟨rule, number⟩
  simp only [Linter.messagesAt, reportsAt, checksFor, List.flatMap_assoc, List.map_flatMap,
    List.flatMap_map, List.map_map]
  rfl

theorem reportsAt_unfailing (rule : Rule) (ctx : CheckContext) (place : Location) :
    rule.unfailing.reportsAt ctx place = rule.reportsAt ctx place := by
  simp only [reportsAt, checksFor, Rule.unfailing, List.flatMap_assoc, List.flatMap_map]
  rfl

theorem messagesAt_unfailing (linter : Linter) (source : Bytes) (place : Location) (rule : Rule) :
    linter.unfailing.messagesAt source place rule.unfailing =
      linter.messagesAt source place rule := by
  unfold Linter.messagesAt
  rw [reportsAt_unfailing]
  rfl

/-! ## A whole tree -/

theorem found_eq_places (linter : Linter) (source : Bytes) (tree : Tree) :
    linter.found source tree =
      (tree.places []).flatMap fun place => linter.rules.flatMap (linter.messagesAt source place) := by
  unfold Linter.found Linter.reports
  rw [walk_eq_preorder, List.map_flatMap]
  congr 1
  funext place
  rw [Linter.reportsAt, List.map_flatMap]
  congr 1
  funext rule
  rw [List.map_map]
  rfl

theorem tellings_eq_places (linter : Linter) (source : Bytes) (tree : Tree) :
    linter.tellings source tree = (tree.places []).flatMap fun place =>
      resultsByNumber (linter.messagesAt source place) linter.rules.zipIdx := by
  unfold Linter.tellings Linter.turns
  rw [List.flatMap_assoc]
  congr 1
  funext place
  exact flatMap_told_turnsAt linter source place

theorem map_snd_tellings (linter : Linter) (source : Bytes) (tree : Tree) :
    (linter.tellings source tree).map (·.2) = linter.found source tree := by
  rw [tellings_eq_places, found_eq_places, List.map_flatMap]
  congr 1
  funext place
  exact map_snd_resultsByNumber _ _ 0

/-- What is told for the rule of a number is what it finds alone. -/
theorem filter_tellings (hrule : linter.rules[number]? = some rule) (source : Bytes)
    (tree : Tree) :
    ((linter.tellings source tree).filter (·.1 = number)).map (·.2) =
      (linter.alone rule).found source tree := by
  rw [tellings_eq_places, found_eq_places, List.filter_flatMap, List.map_flatMap]
  congr 1
  funext place
  have hnumber := filter_resultsByNumber (linter.messagesAt source place) linter.rules 0 number
  rw [hrule, Nat.zero_add] at hnumber
  have halone : (linter.alone rule).rules.flatMap ((linter.alone rule).messagesAt source place) =
      linter.messagesAt source place rule := List.flatMap_singleton ..
  rw [hnumber, halone]
  simp [Function.comp_def]

theorem found_unfailing (linter : Linter) (source : Bytes) (tree : Tree) :
    linter.unfailing.found source tree = linter.found source tree := by
  rw [found_eq_places, found_eq_places]
  congr 1
  funext place
  have hrules : linter.unfailing.rules = linter.rules.map Rule.unfailing := rfl
  rw [hrules, List.flatMap_map]
  congr 1
  funext rule
  exact messagesAt_unfailing linter source place rule

/-! ## The messages of a source -/

theorem placeLe_ranking : Ranking Message.placeLe where
  total a b := by
    simp only [Message.placeLe, Position.le_iff]
    omega
  trans _ _ _ := Position.le_trans

/-- Whether one of two numbered messages stands in front of the other, or at the same place. -/
def numberedPlaceLe (a b : Nat × Message) : Bool := a.2.placeLe b.2

theorem numberedPlaceLe_ranking : Ranking numberedPlaceLe where
  total a b := placeLe_ranking.total a.2 b.2
  trans a b c := placeLe_ranking.trans a.2 b.2 c.2

theorem map_snd_stableSort (told : List (Nat × Message)) :
    (stableSort numberedPlaceLe told).map (·.2) =
      stableSort Message.placeLe (told.map (·.2)) := by
  rw [← map_stableSort]
  rfl

/-- The messages of a source are what the checks tell, call by call, sorted by place with ties left
as they stood. Those of each rule are the messages of the rule alone, and a check that gives up
takes nothing back. -/
theorem messages_of_each_rule (linter : Linter) (source : Bytes) (path : String)
    (henabled : linter.config.severity ≠ .off)
    (herror : (linter.parser source).hasError = false) :
    ∃ sorted,
      StablySorted numberedPlaceLe (linter.tellings source (linter.parser source)) sorted ∧
      (linter.lint source path).messages = sorted.map (·.2) ∧
      (∀ number rule, linter.rules[number]? = some rule →
        (sorted.filter (·.1 = number)).map (·.2) =
          ((linter.alone rule).lint source path).messages) ∧
      (linter.unfailing.lint source path).messages = (linter.lint source path).messages := by
  have hsorts : ∀ other : Linter, other.parser = linter.parser → other.config = linter.config →
      (other.lint source path).messages =
        stableSort Message.placeLe (other.found source (linter.parser source)) := by
    intro other hparser hconfig
    have hother : other.config.enabled = true := by
      rw [hconfig]
      exact decide_eq_true henabled
    have hreadable : (other.parser source).hasError = false := by
      rw [hparser]
      exact herror
    have hmessages := messages_of_readable hother hreadable
    rw [hparser] at hmessages
    exact hmessages
  refine ⟨stableSort numberedPlaceLe (linter.tellings source (linter.parser source)),
    stablySorted_stableSort numberedPlaceLe_ranking _, ?_, ?_, ?_⟩
  · rw [hsorts linter rfl rfl, map_snd_stableSort, map_snd_tellings]
  · intro number rule hrule
    let told := linter.tellings source (linter.parser source)
    -- A filter passes through the sort, and what is left of the sort looks at places only.
    calc ((stableSort numberedPlaceLe told).filter (·.1 = number)).map (·.2)
      _ = (stableSort numberedPlaceLe (told.filter (·.1 = number))).map (·.2) := by
        rw [filter_stableSort numberedPlaceLe_ranking]
      _ = stableSort Message.placeLe ((told.filter (·.1 = number)).map (·.2)) :=
        map_snd_stableSort _
      _ = stableSort Message.placeLe ((linter.alone rule).found source (linter.parser source)) := by
        rw [filter_tellings hrule]
      _ = ((linter.alone rule).lint source path).messages :=
        (hsorts (linter.alone rule) rfl rfl).symm
  · rw [hsorts linter.unfailing rfl rfl, hsorts linter rfl rfl, found_unfailing]

/-- A check that reports a node under a message id, and gives up after that if it is to. -/
def reportsAs (messageId : String) (failure : Option CheckFailure) : Check := fun _ place =>
  { reported := [⟨place.info, messageId, [], .none⟩], failure := failure }

/-- Two rules of one name over a tree of two nodes that start at one place. The check of the first
gives up each time, and the second lists a kind twice. -/
def namesakes : Linter where
  parser source := .node { kind := "program", start := 0, stop := source.length } [
    .node { kind := "leaf", start := 0, stop := source.length } []]
  rules := [
    ⟨{ id := "r" }, [⟨["leaf"], reportsAs "a" (some .other)⟩]⟩,
    ⟨{ id := "r" }, [⟨["leaf", "program", "leaf"], reportsAs "b" none⟩]⟩]
  config := .default

/-- The messages of the two stand between each other, and each rule has its own. -/
theorem messages_of_namesakes :
    ((namesakes.lint [0x61] "f").messages.map (·.messageId)) =
        [some "b", some "a", some "b", some "b"] ∧
      ∃ sorted : List (Nat × Message),
        (namesakes.lint [0x61] "f").messages = sorted.map (·.2) ∧
        ((sorted.filter (·.1 = 0)).map (·.2.messageId)) = [some "a"] ∧
        ((sorted.filter (·.1 = 1)).map (·.2.messageId)) = [some "b", some "b", some "b"] := by
  obtain ⟨sorted, -, hmessages, halone, -⟩ :=
    messages_of_each_rule namesakes [0x61] "f" (by decide) (by decide)
  have hfirst := congrArg (List.map (·.messageId)) (halone 0 namesakes.rules[0] rfl)
  have hsecond := congrArg (List.map (·.messageId)) (halone 1 namesakes.rules[1] rfl)
  rw [List.map_map] at hfirst hsecond
  refine ⟨by decide +kernel, sorted, hmessages, ?_, ?_⟩
  · exact hfirst.trans (by decide +kernel)
  · exact hsecond.trans (by decide +kernel)

end Lint

end TruncIdiom
