import TruncIdiom.Proofs.Syntax.Tree
import TruncIdiom.Syntax.Walk

/-!
A cursor comes to every place once, in preorder.

`Cursor.Runs` is the loop of a cursor without fuel: round after round until it can go nowhere, with
the number of rounds. A cursor that came up to a place goes on from there as it does when it is
through with the tree at the place; so a run from a place that was seen is made longer by the places
of the tree (`runs_places`), which costs at most two rounds a node. At the start there is nowhere to
go on to: the run ends, and `walk`, which has fuel for it, gives the preorder (`walk_eq_preorder`).
-/

namespace TruncIdiom.Syntax

/-! ## Rounds -/

/-- What a round lists: the place of the cursor, unless the cursor came up to it. -/
def Cursor.listed (c : Cursor) (seen : Bool) : List Location := if seen then [] else [c.here]

/-- Where a round goes, and whether it comes up to there. -/
def Cursor.next? (c : Cursor) (seen : Bool) : Option (Cursor × Bool) :=
  match if seen then none else c.firstChild? with
  | some child => some (child, false)
  | none =>
    match c.nextSibling? with
    | some sibling => some (sibling, false)
    | none => c.parent?.map fun parent => (parent, true)

/-- The rounds of a cursor until it can go nowhere, and all that they list. -/
inductive Cursor.Runs : Nat → Cursor → Bool → List Location → Prop
  | stop {c : Cursor} {seen : Bool} (halt : c.next? seen = none) : Runs 1 c seen (c.listed seen)
  | more {c d : Cursor} {seen up : Bool} {rounds : Nat} {rest : List Location}
      (next : c.next? seen = some (d, up)) (run : Runs rounds d up rest) :
      Runs (rounds + 1) c seen (c.listed seen ++ rest)

variable {c child : Cursor} {seen : Bool} {rounds : Nat} {out : List Location}

theorem walk_succ (fuel : Nat) (c : Cursor) (seen : Bool) :
    c.walk (fuel + 1) seen = c.listed seen ++
      match c.next? seen with
      | some (d, up) => d.walk fuel up
      | none => [] := by
  cases seen with
  | true =>
    simp only [Cursor.walk, Cursor.next?, Cursor.listed, if_true, List.nil_append]
    cases c.nextSibling? with
    | some sibling => rfl
    | none => cases c.parent? <;> rfl
  | false =>
    simp only [Cursor.walk, Cursor.next?, Cursor.listed, Bool.false_eq_true, if_false,
      List.singleton_append]
    cases c.firstChild? with
    | some child => rfl
    | none =>
      cases c.nextSibling? with
      | some sibling => rfl
      | none => cases c.parent? <;> rfl

namespace Cursor.Runs

/-- With fuel for the rounds of a run, the walk lists what the run does. -/
theorem walk_eq (h : Runs rounds c seen out) {fuel : Nat} (hfuel : rounds ≤ fuel) :
    c.walk fuel seen = out := by
  induction h generalizing fuel with
  | stop halt =>
    obtain ⟨fuel, rfl⟩ : ∃ rest, fuel = rest + 1 := ⟨fuel - 1, by omega⟩
    rw [walk_succ, halt, List.append_nil]
  | more next run ih =>
    obtain ⟨fuel, rfl⟩ : ∃ rest, fuel = rest + 1 := ⟨fuel - 1, by omega⟩
    rw [walk_succ, next]
    dsimp only
    rw [ih (by omega)]

theorem unique {rounds' : Nat} {out' : List Location} (h : Runs rounds c seen out)
    (h' : Runs rounds' c seen out') : rounds' = rounds ∧ out' = out := by
  induction h generalizing rounds' out' with
  | stop halt =>
    cases h' with
    | stop => exact ⟨rfl, rfl⟩
    | more next => rw [halt] at next; cases next
  | more next run ih =>
    cases h' with
    | stop halt => rw [next] at halt; cases halt
    | more next' run' =>
      obtain ⟨rfl, rfl⟩ := Prod.mk.inj (Option.some.inj (next.symm.trans next'))
      obtain ⟨rfl, rfl⟩ := ih run'
      exact ⟨rfl, rfl⟩

theorem down (h : c.firstChild? = some child) (run : Runs rounds child false out) :
    Runs (rounds + 1) c false (c.here :: out) := by
  refine .more (d := child) ?_ run
  simp only [Cursor.next?, Bool.false_eq_true, if_false, h]

theorem leaf (h : c.firstChild? = none) (run : Runs rounds c true out) :
    Runs rounds c false (c.here :: out) := by
  have hnext : c.next? false = c.next? true := by
    simp only [Cursor.next?, Bool.false_eq_true, if_false, if_true, h]
  cases run with
  | stop halt => exact .stop (hnext.trans halt)
  | more next run => exact .more (hnext.trans next) run

variable {t u : Tree} {parent : NodeInfo} {before after : List Tree} {above : List Frame}
  {depth : Nat}

theorem sibling
    (run : Runs rounds ⟨⟨u, ⟨parent, t :: before, after⟩ :: above⟩, depth + 1⟩ false out) :
    Runs (rounds + 1) ⟨⟨t, ⟨parent, before, u :: after⟩ :: above⟩, depth + 1⟩ true out :=
  .more rfl run

theorem up (run : Runs rounds ⟨⟨.node parent (before.reverse ++ [t]), above⟩, depth⟩ true out) :
    Runs (rounds + 1) ⟨⟨t, ⟨parent, before, []⟩ :: above⟩, depth + 1⟩ true out :=
  .more rfl run

end Cursor.Runs

/-! ## The walk -/

theorem placesFrom_cons (parent : NodeInfo) (above : List Frame) (before : List Tree) (t : Tree)
    (after : List Tree) : Tree.placesFrom parent above before (t :: after) =
      t.places (⟨parent, before, after⟩ :: above) ++
        Tree.placesFrom parent above (t :: before) after := by
  rw [Tree.placesFrom]

/-- A cursor goes through the places of a tree and then on as from a tree that it has seen. -/
def WalksOver (t : Tree) : Prop :=
  ∀ (above : List Frame) (depth rounds : Nat) (out : List Location),
    Cursor.Runs rounds ⟨⟨t, above⟩, depth⟩ true out →
    ∃ total, total + 1 ≤ rounds + 2 * t.size ∧
      Cursor.Runs total ⟨⟨t, above⟩, depth⟩ false (t.places above ++ out)

theorem runs_placesFrom (before : List Tree) {t : Tree} {ts : List Tree}
    (h : ∀ u ∈ t :: ts, WalksOver u) {parent : NodeInfo} {above : List Frame} {depth : Nat}
    (run : Cursor.Runs rounds ⟨⟨.node parent (before.reverse ++ t :: ts), above⟩, depth⟩ true out) :
    ∃ total, total ≤ rounds + 2 * Tree.sizeAll (t :: ts) ∧
      Cursor.Runs total ⟨⟨t, ⟨parent, before, ts⟩ :: above⟩, depth + 1⟩ false
        (Tree.placesFrom parent above before (t :: ts) ++ out) := by
  induction ts generalizing t before with
  | nil =>
    obtain ⟨total, htotal, hrun⟩ := h t List.mem_cons_self _ _ _ _ run.up
    refine ⟨total, ?_, ?_⟩
    · simp only [Tree.sizeAll]
      omega
    · rwa [placesFrom_cons, Tree.placesFrom, List.append_nil]
  | cons u ts ih =>
    have hparent : before.reverse ++ t :: u :: ts = (t :: before).reverse ++ u :: ts := by simp
    rw [hparent] at run
    obtain ⟨rest, hrest, hback⟩ := ih (t :: before) (fun v hv => h v (List.mem_cons_of_mem t hv)) run
    obtain ⟨total, htotal, hrun⟩ := h t List.mem_cons_self _ _ _ _ hback.sibling
    refine ⟨total, ?_, ?_⟩
    · rw [Tree.sizeAll]
      omega
    · rwa [placesFrom_cons, List.append_assoc]

theorem runs_places (t : Tree) : WalksOver t := by
  induction t using Tree.induction with
  | node info children ih =>
    intro above depth rounds out run
    rw [Tree.size, Tree.places]
    cases children with
    | nil => exact ⟨rounds, by omega, .leaf rfl run⟩
    | cons t ts =>
      -- The run from the node, once it is seen, is what follows its last child.
      obtain ⟨total, htotal, hrun⟩ := runs_placesFrom [] ih run
      exact ⟨total + 1, by omega, .down rfl hrun⟩

theorem exists_runs (l : Location) :
    ∃ rounds, rounds ≤ 2 * l.tree.size ∧ Cursor.Runs rounds ⟨l, 0⟩ false l.preorder := by
  have hstart : Cursor.Runs 1 ⟨l, 0⟩ true [] := .stop rfl
  obtain ⟨rounds, hrounds, hrun⟩ := runs_places l.tree l.above 0 1 [] hstart
  rw [List.append_nil] at hrun
  exact ⟨rounds, by omega, hrun⟩

theorem walk_eq_preorder (l : Location) : l.walk = l.preorder := by
  obtain ⟨rounds, hrounds, hrun⟩ := exists_runs l
  exact hrun.walk_eq hrounds

end TruncIdiom.Syntax
