import Mathlib.Order.Lex
import TruncIdiom.Proofs.Syntax.Tree
import TruncIdiom.Rule.SideEffect
import TruncIdiom.Script.Program

/-!
The search for an effect, level by level.

`mayHaveEffect` looks for an effect by recursion, and the search does with a queue. `EffectAt`
writes down where the effects are that evaluating a tree comes to: which child to go to at each
step, and what stands there. A queue that holds its places in `LevelOrdered` order is searched from
the effect that comes first (`finds_firstEffectFrom`), and what a step of the search leaves in the
queue is such a queue again. So the search is the recursion, and the effect it names lies least deep
and of those the furthest left (`sideEffect_structural`).
-/

namespace TruncIdiom.Rule

open Text Syntax

variable {source : Bytes} {getters : Bool} {t effect : Tree} {fuel : Nat}

/-! ## The recursion -/

theorem nameHasEffect_eq (source : Bytes) (getters : Bool) (ts : List Tree) :
    nameHasEffect source getters ts =
      (ts.find? (·.info.field = some "name")).any (mayHaveEffect source getters) := by
  induction ts with
  | nil => rfl
  | cons t ts ih =>
    rw [nameHasEffect, List.find?_cons]
    by_cases hname : t.info.field = some "name"
    · simp [hname]
    · simp [hname, ih]

theorem partHasEffect_eq (source : Bytes) (getters : Bool) (ts : List Tree) :
    partHasEffect source getters ts =
      (ts.filter (·.info.named)).any (mayHaveEffect source getters) := by
  induction ts with
  | nil => rfl
  | cons t ts ih =>
    rw [partHasEffect, ih, List.filter_cons]
    cases hnamed : t.info.named <;> simp

theorem isEffect_iff : isEffect source getters t = true ↔
    t.kind ∈ effectKinds ∨
      (t.kind = "unary_expression" ∧ t.operatorText source = "delete") ∨
      (getters = true ∧ t.kind ∈ propertyKinds) := by
  simp [isEffect, or_assoc]

theorem mayHaveEffect_iff : mayHaveEffect source getters t = true ↔
    isEffect source getters t = true ∨
      ∃ part ∈ evaluatedParts t, mayHaveEffect source getters part = true := by
  obtain ⟨info, children⟩ := t
  rw [mayHaveEffect, nameHasEffect_eq, partHasEffect_eq, evaluatedParts, Tree.kind, Tree.info]
  cases functionKinds.contains info.kind with
  | true => simp
  | false =>
    by_cases hmethod : info.kind = methodKind
    · simp [hmethod, Tree.childInField?, Tree.children, Option.any_eq_true]
    · simp [hmethod, Tree.namedChildren, Tree.children, and_assoc]

/-! ## Where effects are -/

/-- The parts of a node that are evaluated together with it, each with its number among the
children. -/
def numberedParts (t : Tree) : List (Tree × Nat) :=
  if functionKinds.contains t.kind then []
  else if t.kind = methodKind then
    (t.children.zipIdx.find? (·.1.info.field = some "name")).toList
  else t.children.zipIdx.filter (·.1.info.named)

/-- The effects that evaluating a tree comes to, each with the way there: the numbers of the
children that lead down to it. What lies below an effect is not gone into. -/
inductive EffectAt (source : Bytes) (getters : Bool) : Tree → List Nat → Tree → Prop
  | itself {t : Tree} : isEffect source getters t = true → EffectAt source getters t [] t
  | within {t part effect : Tree} {n : Nat} {way : List Nat} : isEffect source getters t = false →
      (part, n) ∈ numberedParts t → EffectAt source getters part way effect →
      EffectAt source getters t (n :: way) effect

theorem map_fst_numberedParts (t : Tree) : (numberedParts t).map (·.1) = evaluatedParts t := by
  rw [numberedParts, evaluatedParts]
  split
  · rfl
  · split
    · rw [Tree.childInField?, ← List.zipIdx_map_fst 0 t.children, List.find?_map]
      simp only [Function.comp_def, List.zipIdx_map_fst, Option.toList_map]
    · rw [Tree.namedChildren, ← List.zipIdx_map_fst 0 t.children, List.filter_map]
      simp [Function.comp_def, List.zipIdx_map_fst]

theorem sublist_numberedParts (t : Tree) : (numberedParts t).Sublist t.children.zipIdx := by
  rw [numberedParts]
  split
  · exact List.nil_sublist _
  · split
    · cases hname : t.children.zipIdx.find? (·.1.info.field = some "name") with
      | none => exact List.nil_sublist _
      | some part => exact List.singleton_sublist.mpr (List.mem_of_find?_eq_some hname)
    · exact List.filter_sublist

theorem sublist_evaluatedParts (t : Tree) : (evaluatedParts t).Sublist t.children := by
  rw [← map_fst_numberedParts, ← List.zipIdx_map_fst 0 t.children]
  exact (sublist_numberedParts t).map _

theorem pairwise_numberedParts (t : Tree) :
    (numberedParts t).Pairwise fun a b => a.2 < b.2 := by
  have hnumbers : (t.children.zipIdx.map (·.2)).Pairwise (· < ·) := by
    rw [List.zipIdx_map_snd]
    exact List.pairwise_lt_range'
  exact (List.pairwise_map.mp hnumbers).sublist (sublist_numberedParts t)

theorem getElem?_of_mem_numberedParts {part : Tree} {n : Nat} (h : (part, n) ∈ numberedParts t) :
    t.children[n]? = some part :=
  List.mk_mem_zipIdx_iff_getElem?.mp ((sublist_numberedParts t).subset h)

/-- The recursion says whether there is an effect anywhere. -/
theorem mayHaveEffect_iff_exists : mayHaveEffect source getters t = true ↔
    ∃ way effect, EffectAt source getters t way effect := by
  induction t using Tree.induction with
  | node info children ih =>
    generalize ht : Syntax.Tree.node info children = t
    have hparts : ∀ part ∈ evaluatedParts t, mayHaveEffect source getters part = true ↔
        ∃ way effect, EffectAt source getters part way effect := by
      intro part hpart
      rw [← map_fst_numberedParts] at hpart
      obtain ⟨⟨part, n⟩, hnumbered, rfl⟩ := List.mem_map.mp hpart
      have hchild := List.mem_of_getElem? (getElem?_of_mem_numberedParts hnumbered)
      rw [← ht] at hchild
      exact ih part hchild
    rw [mayHaveEffect_iff]
    constructor
    · rintro (hself | ⟨part, hpart, hmay⟩)
      · exact ⟨[], t, .itself hself⟩
      · obtain ⟨way, effect, heffect⟩ := (hparts part hpart).mp hmay
        rw [← map_fst_numberedParts] at hpart
        obtain ⟨⟨part, n⟩, hnumbered, rfl⟩ := List.mem_map.mp hpart
        cases hself : isEffect source getters t with
        | true => exact ⟨[], t, .itself hself⟩
        | false => exact ⟨n :: way, effect, .within hself hnumbered heffect⟩
    · rintro ⟨way, effect, heffect⟩
      cases heffect with
      | itself hself => exact .inl hself
      | @within _ part _ n way _ hnumbered heffect =>
        have hpart : part ∈ evaluatedParts t := by
          rw [← map_fst_numberedParts]
          exact List.mem_map.mpr ⟨(part, n), hnumbered, rfl⟩
        exact .inr ⟨part, hpart, (hparts part hpart).mpr ⟨way, effect, heffect⟩⟩

/-! ## Level by level -/

/-- Whether one place comes before another level by level: it lies less deep, or as deep and
further to the left. -/
def LevelBefore (way way' : List Nat) : Prop :=
  way.length < way'.length ∨ way.length = way'.length ∧ way < way'

theorem LevelBefore.trans {a b c : List Nat} (h : LevelBefore a b) (h' : LevelBefore b c) :
    LevelBefore a c := by
  rcases h with hab | ⟨hab, hleft⟩
  · exact .inl (by rcases h' with hbc | ⟨hbc, -⟩ <;> omega)
  · rcases h' with hbc | ⟨hbc, hleft'⟩
    · exact .inl (by omega)
    · exact .inr ⟨hab.trans hbc, List.lt_trans hleft hleft'⟩

theorem LevelBefore.append_right {a b : List Nat} (h : LevelBefore a b) (c : List Nat) :
    LevelBefore a (b ++ c) := by
  cases c with
  | nil => rwa [List.append_nil]
  | cons n c =>
    refine .inl ?_
    rw [List.length_append, List.length_cons]
    rcases h with hab | ⟨hab, -⟩ <;> omega

theorem append_lt_append_of_lt {a b : List Nat} (hlength : a.length = b.length) (h : a < b)
    (c d : List Nat) : a ++ c < b ++ d := by
  induction a generalizing b with
  | nil =>
    rw [List.length_nil] at hlength
    rw [List.eq_nil_of_length_eq_zero hlength.symm] at h
    exact absurd h (List.lt_irrefl [])
  | cons n a ih =>
    cases b with
    | nil => cases hlength
    | cons m b =>
      rw [List.cons_append, List.cons_append, List.cons_lt_cons_iff]
      rcases List.cons_lt_cons_iff.mp h with hlt | ⟨rfl, hlt⟩
      · exact .inl hlt
      · exact .inr ⟨rfl, ih (Nat.succ.inj hlength) hlt⟩

theorem LevelBefore.concat {a b : List Nat} (h : LevelBefore a b) (n m : Nat) :
    LevelBefore (a ++ [n]) (b ++ [m]) := by
  rw [LevelBefore, List.length_append, List.length_append]
  rcases h with hab | ⟨hab, hleft⟩
  · exact .inl (Nat.succ_lt_succ hab)
  · exact .inr ⟨congrArg (· + 1) hab, append_lt_append_of_lt hab hleft [n] [m]⟩

theorem levelBefore_concat (a : List Nat) (n : Nat) : LevelBefore a (a ++ [n]) :=
  .inl (by simp)

theorem levelBefore_siblings (a : List Nat) {n m : Nat} (h : n < m) :
    LevelBefore (a ++ [n]) (a ++ [m]) :=
  .inr ⟨by simp, List.append_left_lt (List.cons_lt_cons_iff.mpr (.inl h))⟩

/-! ## The queue -/

abbrev Queued := List Nat × Tree

/-- The parts of a tree of the queue, as they are put in behind the others. -/
def queuedParts (place : Queued) : List Queued :=
  (numberedParts place.2).map fun (part, n) => (place.1 ++ [n], part)

theorem map_snd_queuedParts (place : Queued) :
    (queuedParts place).map (·.2) = evaluatedParts place.2 := by
  rw [queuedParts, List.map_map, ← map_fst_numberedParts]
  rfl

theorem mem_queuedParts {place child : Queued} :
    child ∈ queuedParts place ↔
      ∃ n, child.1 = place.1 ++ [n] ∧ (child.2, n) ∈ numberedParts place.2 := by
  obtain ⟨way, part⟩ := child
  simp only [queuedParts, List.mem_map, Prod.exists, Prod.mk.injEq]
  constructor
  · rintro ⟨_, n, hnumbered, rfl, rfl⟩
    exact ⟨n, rfl, hnumbered⟩
  · rintro ⟨n, rfl, hnumbered⟩
    exact ⟨part, n, hnumbered, rfl, rfl⟩

/-- A queue whose places stand level by level, and whose first place comes after the parents of all
places behind it: those have been taken out. -/
structure LevelOrdered (queue : List Queued) : Prop where
  ordered : queue.Pairwise fun a b => LevelBefore a.1 b.1
  parents : ∀ first ∈ queue.head?, ∀ place ∈ queue, ∀ parent n, place.1 = parent ++ [n] →
    LevelBefore parent first.1

theorem levelOrdered_top (t : Tree) : LevelOrdered [([], t)] where
  ordered := List.pairwise_singleton _ _
  parents := by
    intro first _ place hplace parent n hway
    obtain rfl := List.mem_singleton.mp hplace
    exact absurd hway (by simp)

/-- Taking the first tree out of the queue and putting its parts in keeps the order. -/
theorem LevelOrdered.step {place : Queued} {queue : List Queued}
    (h : LevelOrdered (place :: queue)) : LevelOrdered (queue ++ queuedParts place) := by
  obtain ⟨hfirst, hqueue⟩ := List.pairwise_cons.mp h.ordered
  have hparents : ∀ other ∈ queue, ∀ parent n, other.1 = parent ++ [n] →
      LevelBefore parent place.1 := by
    intro other hother
    exact h.parents place rfl other (List.mem_cons_of_mem place hother)
  constructor
  · refine List.pairwise_append.mpr ⟨hqueue, ?_, ?_⟩
    · refine List.pairwise_map.mpr ((pairwise_numberedParts place.2).imp ?_)
      intro a b hlt
      exact levelBefore_siblings place.1 hlt
    · intro other hother child hchild
      obtain ⟨n, hway, -⟩ := mem_queuedParts.mp hchild
      rw [hway]
      rcases List.eq_nil_or_concat other.1 with hnil | ⟨parent, m, hother'⟩
      · exact .inl (by simp [hnil])
      · rw [List.concat_eq_append] at hother'
        rw [hother']
        exact (hparents other hother parent m hother').concat m n
  · intro first hhead other hother parent n hway
    -- The new first place comes after the one taken out, whether it waited or was put in now.
    have hnew : LevelBefore place.1 first.1 := by
      rcases List.mem_append.mp (List.mem_of_mem_head? hhead) with hmem | hmem
      · exact hfirst first hmem
      · obtain ⟨m, hfirst', -⟩ := mem_queuedParts.mp hmem
        rw [hfirst']
        exact levelBefore_concat place.1 m
    rcases List.mem_append.mp hother with hmem | hmem
    · exact (hparents other hmem parent n hway).trans hnew
    · obtain ⟨m, hother', -⟩ := mem_queuedParts.mp hmem
      rw [hother'] at hway
      rw [(List.append_inj' hway rfl).1.symm]
      exact hnew

/-! ## The search -/

/-- The effects that the trees of a queue come to, with the way to each from the top. -/
def Reached (source : Bytes) (getters : Bool) (queue : List Queued) (way : List Nat)
    (effect : Tree) : Prop :=
  ∃ place ∈ queue, ∃ rest, way = place.1 ++ rest ∧ EffectAt source getters place.2 rest effect

theorem reached_top {way : List Nat} :
    Reached source getters [([], t)] way effect ↔ EffectAt source getters t way effect := by
  constructor
  · rintro ⟨place, hplace, rest, rfl, heffect⟩
    obtain rfl := List.mem_singleton.mp hplace
    exact heffect
  · intro heffect
    exact ⟨_, List.mem_singleton_self _, way, rfl, heffect⟩

/-- A tree that is no effect may be exchanged for its parts. -/
theorem reached_step {place : Queued} {queue : List Queued} {way : List Nat}
    (hself : isEffect source getters place.2 = false) :
    Reached source getters (place :: queue) way effect ↔
      Reached source getters (queue ++ queuedParts place) way effect := by
  constructor
  · rintro ⟨other, hother, rest, rfl, heffect⟩
    rcases List.mem_cons.mp hother with rfl | hother
    · cases heffect with
      | itself h =>
        rw [hself] at h
        cases h
      | @within _ part _ n rest _ hnumbered heffect =>
        refine ⟨(other.1 ++ [n], part), List.mem_append_right queue ?_, rest, by simp, heffect⟩
        exact mem_queuedParts.mpr ⟨n, rfl, hnumbered⟩
    · exact ⟨other, List.mem_append_left _ hother, rest, rfl, heffect⟩
  · rintro ⟨other, hother, rest, rfl, heffect⟩
    rcases List.mem_append.mp hother with hother | hother
    · exact ⟨other, List.mem_cons_of_mem place hother, rest, rfl, heffect⟩
    · obtain ⟨n, hway, hnumbered⟩ := mem_queuedParts.mp hother
      exact ⟨place, List.mem_cons_self, n :: rest, by rw [hway]; simp,
        .within hself hnumbered heffect⟩

/-- What a search comes to that finds the first effect level by level, if there is any. -/
inductive Finds (source : Bytes) (getters : Bool) (queue : List Queued) : Option Tree → Prop
  | nothing : (∀ way effect, ¬ Reached source getters queue way effect) →
      Finds source getters queue none
  | first {way : List Nat} {effect : Tree} : Reached source getters queue way effect →
      (∀ way' effect', Reached source getters queue way' effect' →
        way' = way ∨ LevelBefore way way') →
      Finds source getters queue (some effect)

theorem Finds.congr {queue queue' : List Queued} {found : Option Tree}
    (h : Finds source getters queue found)
    (hreached : ∀ way effect,
      Reached source getters queue' way effect ↔ Reached source getters queue way effect) :
    Finds source getters queue' found := by
  cases h with
  | nothing hnone => exact .nothing fun way effect h => hnone way effect ((hreached _ _).mp h)
  | first hfirst hbefore =>
    exact .first ((hreached _ _).mpr hfirst) fun way' effect' h =>
      hbefore way' effect' ((hreached _ _).mp h)

theorem finds_front {place : Queued} {queue : List Queued} (h : LevelOrdered (place :: queue))
    (hself : isEffect source getters place.2 = true) :
    Finds source getters (place :: queue) (some place.2) := by
  have hreached : Reached source getters (place :: queue) place.1 place.2 :=
    ⟨place, List.mem_cons_self, [], (List.append_nil _).symm, .itself hself⟩
  refine .first hreached ?_
  rintro way' effect' ⟨other, hother, rest, rfl, heffect⟩
  rcases List.mem_cons.mp hother with rfl | hother
  · cases heffect with
    | itself _ => exact .inl (List.append_nil _)
    | within hnot _ _ =>
      rw [hself] at hnot
      cases hnot
  · exact .inr (((List.pairwise_cons.mp h.ordered).1 other hother).append_right rest)

theorem sizeAll_evaluatedParts_lt (t : Tree) : Tree.sizeAll (evaluatedParts t) < t.size := by
  have hle := Tree.sizeAll_le_of_sublist (sublist_evaluatedParts t)
  cases t
  exact Nat.lt_succ_of_le hle

/-- A search with fuel for every node of its queue finds the first effect. -/
theorem finds_firstEffectFrom {queue : List Queued} (h : LevelOrdered queue)
    (hfuel : Tree.sizeAll (queue.map (·.2)) ≤ fuel) :
    Finds source getters queue (firstEffectFrom source getters fuel (queue.map (·.2))) := by
  induction fuel generalizing queue with
  | zero =>
    cases queue with
    | nil => exact .nothing fun _ _ ⟨_, hplace, _⟩ => absurd hplace List.not_mem_nil
    | cons place queue =>
      have := place.2.size_pos
      rw [List.map_cons, Tree.sizeAll] at hfuel
      omega
  | succ fuel ih =>
    cases queue with
    | nil => exact .nothing fun _ _ ⟨_, hplace, _⟩ => absurd hplace List.not_mem_nil
    | cons place queue =>
      rw [List.map_cons, firstEffectFrom]
      cases hself : isEffect source getters place.2 with
      | true =>
        rw [if_pos rfl]
        exact finds_front h hself
      | false =>
        -- The node taken out pays for the step, and its parts for the steps they lead to.
        have hsize : Tree.sizeAll ((queue ++ queuedParts place).map (·.2)) ≤ fuel := by
          have := sizeAll_evaluatedParts_lt place.2
          rw [List.map_cons, Tree.sizeAll] at hfuel
          rw [List.map_append, map_snd_queuedParts, Tree.sizeAll_append]
          omega
        have hfinds := ih h.step hsize
        rw [List.map_append, map_snd_queuedParts] at hfinds
        rw [if_neg (by simp)]
        exact hfinds.congr fun _ _ => reached_step hself

theorem finds_firstEffect? (source : Bytes) (getters : Bool) (t : Tree) :
    Finds source getters [([], t)] (firstEffect? source getters t) :=
  finds_firstEffectFrom (levelOrdered_top t) (by simp [Tree.sizeAll])

/-- The first effect of a tree is an effect that evaluating it comes to, and comes before all
others. -/
theorem first_of_firstEffect? (h : firstEffect? source getters t = some effect) :
    ∃ way, EffectAt source getters t way effect ∧
      ∀ way' effect', EffectAt source getters t way' effect' →
        way' = way ∨ LevelBefore way way' := by
  have hfinds := finds_firstEffect? source getters t
  rw [h] at hfinds
  cases hfinds with
  | @first way _ hreached hbefore =>
    exact ⟨way, reached_top.mp hreached, fun way' effect' heffect =>
      hbefore way' effect' (reached_top.mpr heffect)⟩

theorem hasSideEffect_eq (source : Bytes) (getters : Bool) (t : Tree) :
    hasSideEffect source getters t = mayHaveEffect source getters t := by
  have hfinds := finds_firstEffect? source getters t
  rw [Bool.eq_iff_iff, mayHaveEffect_iff_exists, hasSideEffect]
  cases hfound : firstEffect? source getters t with
  | none =>
    rw [hfound] at hfinds
    cases hfinds with
    | nothing hnone =>
      refine iff_of_false Bool.false_ne_true ?_
      rintro ⟨way, effect, heffect⟩
      exact hnone way effect (reached_top.mpr heffect)
  | some effect =>
    obtain ⟨way, heffect, -⟩ := first_of_firstEffect? hfound
    exact iff_of_true rfl ⟨way, effect, heffect⟩

/-! ## Getters -/

theorem isEffect_of_withoutGetters (h : isEffect source false t = true) :
    isEffect source true t = true := by
  rw [isEffect_iff] at h ⊢
  rcases h with hkind | hdelete | ⟨hgetters, -⟩
  · exact .inl hkind
  · exact .inr (.inl hdelete)
  · cases hgetters

/-- Counting getters takes no effect away, though the search may end at another node. -/
theorem hasSideEffect_of_withoutGetters (h : hasSideEffect source false t = true) :
    hasSideEffect source true t = true := by
  rw [hasSideEffect_eq] at h ⊢
  induction t using Tree.induction with
  | node info children ih =>
    rcases mayHaveEffect_iff.mp h with hself | ⟨part, hpart, hmay⟩
    · exact mayHaveEffect_iff.mpr (.inl (isEffect_of_withoutGetters hself))
    · have hchild := (sublist_evaluatedParts _).subset hpart
      exact mayHaveEffect_iff.mpr (.inr ⟨part, hpart, ih part hchild hmay⟩)

/-! ## The search is the recursion -/

theorem exists_evaluatedParts_iff {p : Tree → Prop} :
    (∃ part ∈ evaluatedParts t, p part) ↔
      t.kind ∉ functionKinds ∧
        if t.kind = methodKind then ∃ name ∈ t.childInField? "name", p name
        else ∃ part ∈ t.namedChildren, p part := by
  rw [evaluatedParts]
  by_cases hfunction : t.kind ∈ functionKinds
  · simp [hfunction]
  · by_cases hmethod : t.kind = methodKind
    · have hname : methodKind ∉ functionKinds := by decide
      simp [hmethod, hname]
    · simp [hfunction, hmethod]

/-- The search for an effect is the recursion: a node is an effect itself, or it makes no function
and one of the parts evaluated with it has an effect, of a method the name alone. What is described
is the effect that comes first level by level. -/
theorem sideEffect_structural (source : Bytes) (getters : Bool) (t : Tree) :
    hasSideEffect source getters t = mayHaveEffect source getters t ∧
      (mayHaveEffect source getters t = true ↔
        (t.kind ∈ effectKinds ∨
            (t.kind = "unary_expression" ∧ t.operatorText source = "delete") ∨
            (getters = true ∧ t.kind ∈ propertyKinds)) ∨
          (t.kind ∉ functionKinds ∧
            if t.kind = "method_definition" then
              ∃ name ∈ t.childInField? "name", mayHaveEffect source getters name = true
            else ∃ part ∈ t.namedChildren, mayHaveEffect source getters part = true)) ∧
      (mayHaveEffect source getters t = false → describeSideEffect source getters t = "") ∧
      (mayHaveEffect source getters t = true → ∃ way effect,
        EffectAt source getters t way effect ∧
        describeSideEffect source getters t = effect.info.text source ∧
        ∀ way' effect', EffectAt source getters t way' effect' →
          way' = way ∨ LevelBefore way way') := by
  have hsearch := hasSideEffect_eq source getters t
  refine ⟨hsearch, ?_, ?_, ?_⟩
  · rw [mayHaveEffect_iff, isEffect_iff, exists_evaluatedParts_iff]
    rfl
  · intro hnone
    rw [← hsearch, hasSideEffect, Option.isSome_eq_false_iff, Option.isNone_iff_eq_none] at hnone
    rw [describeSideEffect, hnone]
  · intro hsome
    rw [← hsearch] at hsome
    obtain ⟨effect, hfound⟩ := Option.isSome_iff_exists.mp hsome
    obtain ⟨way, heffect, hbefore⟩ := first_of_firstEffect? hfound
    exact ⟨way, effect, heffect, by rw [describeSideEffect, hfound], hbefore⟩

/-- An update in a subscript, and a call behind it that lies less deep. -/
def shallowCall : Bytes := encode "(a[b++], f());"

/-- The call is named, although the update comes first in the source. -/
theorem sideEffect_structural_shallow :
    describeSideEffect shallowCall false (Script.parse shallowCall) = "f()" ∧
      ∃ way effect, EffectAt shallowCall false (Script.parse shallowCall) way effect ∧
        effect.info.text shallowCall = "f()" ∧
        ∀ way' effect', EffectAt shallowCall false (Script.parse shallowCall) way' effect' →
          way' = way ∨ LevelBefore way way' := by
  have hmay : mayHaveEffect shallowCall false (Script.parse shallowCall) = true := by
    decide +kernel
  have hdescribed : describeSideEffect shallowCall false (Script.parse shallowCall) = "f()" := by
    decide +kernel
  obtain ⟨way, effect, heffect, htext, hbefore⟩ :=
    (sideEffect_structural shallowCall false (Script.parse shallowCall)).2.2.2 hmay
  exact ⟨hdescribed, way, effect, heffect, htext.symm.trans hdescribed, hbefore⟩

end TruncIdiom.Rule
