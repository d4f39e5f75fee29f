import TruncIdiom.Proofs.Syntax.Walk

/-!
Where the errors of a tree are.

A tree has an error exactly when a node of its preorder is `Faulty` (`hasError_iff`), however deep
the node lies. The node that is reported is the one the tree `Blames`: the first error node or
missing one of the preorder, or the top when errors are flagged only.
-/

namespace TruncIdiom.Syntax

namespace Tree

/-- Whether a node says itself that there is an error. -/
def Faulty (t : Tree) : Prop :=
  t.info.flagged = true ∨ t.kind = "ERROR" ∨ t.info.missing = true

instance (t : Tree) : Decidable t.Faulty := inferInstanceAs (Decidable (_ ∨ _))

/-- The node that stands for the errors of a tree. -/
inductive Blames (t : Tree) : Tree → Prop
  | first {front back : List Tree} {u : Tree} (order : t.preorder = front ++ u :: back)
      (fault : u.kind = "ERROR" ∨ u.info.missing = true)
      (earlier : ∀ v ∈ front, v.kind ≠ "ERROR" ∧ v.info.missing = false) : Blames t u
  | top (flagged : ∀ v ∈ t.preorder, v.kind ≠ "ERROR" ∧ v.info.missing = false) : Blames t t

/-! ## Errors by preorder -/

theorem mem_preorderAll {u : Tree} {ts : List Tree} :
    u ∈ preorderAll ts ↔ ∃ t ∈ ts, u ∈ t.preorder := by
  induction ts with
  | nil => simp [preorderAll]
  | cons t ts ih => simp [preorderAll, ih]

theorem anyError_iff {ts : List Tree} : anyError ts = true ↔ ∃ t ∈ ts, t.hasError = true := by
  induction ts with
  | nil => simp [anyError]
  | cons t ts ih => simp [anyError, ih]

theorem hasError_iff (t : Tree) : t.hasError = true ↔ ∃ u ∈ t.preorder, u.Faulty := by
  induction t using Tree.induction with
  | node info children ih =>
    have hbelow : anyError children = true ↔ ∃ u ∈ preorderAll children, u.Faulty := by
      rw [anyError_iff]
      constructor
      · rintro ⟨t, ht, herror⟩
        obtain ⟨u, hu, hfaulty⟩ := (ih t ht).mp herror
        exact ⟨u, mem_preorderAll.mpr ⟨t, ht, hu⟩, hfaulty⟩
      · rintro ⟨u, hu, hfaulty⟩
        obtain ⟨t, ht, hmem⟩ := mem_preorderAll.mp hu
        exact ⟨t, ht, (ih t ht).mpr ⟨u, hmem, hfaulty⟩⟩
    have htop : (Tree.node info children).hasError = true ↔
        (Tree.node info children).Faulty ∨ anyError children = true := by
      simp [hasError, Faulty, kind, Tree.info, or_assoc]
    rw [htop, hbelow, preorder]
    simp only [List.mem_cons, exists_eq_or_imp]

theorem isFault_iff {t : Tree} :
    t.isFault = true ↔ t.kind = "ERROR" ∨ t.info.missing = true := by
  rw [isFault, Bool.or_eq_true, decide_eq_true_eq]

theorem isFault_eq_false_iff {t : Tree} :
    t.isFault = false ↔ t.kind ≠ "ERROR" ∧ t.info.missing = false := by
  rw [isFault, Bool.or_eq_false_iff, decide_eq_false_iff_not]

/-! ## The node that is reported -/

theorem map_tree_places (t : Tree) (above : List Frame) :
    (t.places above).map (·.tree) = t.preorder := by
  induction t using Tree.induction generalizing above with
  | node info children ih =>
    have hrow : ∀ (ts before : List Tree), (∀ t ∈ ts, t ∈ children) →
        (placesFrom info above before ts).map (·.tree) = preorderAll ts := by
      intro ts
      induction ts with
      | nil =>
        intro _ _
        rw [placesFrom, preorderAll, List.map_nil]
      | cons t ts ihts =>
        intro before hsub
        rw [placesFrom_cons, preorderAll, List.map_append, ih t (hsub t List.mem_cons_self),
          ihts (t :: before) fun u hu => hsub u (List.mem_cons_of_mem t hu)]
    rw [places, preorder, List.map_cons, hrow children [] fun _ ht => ht]

theorem firstFault?_eq {t : Tree} (h : t.hasError = true) :
    t.firstFault? = some ((t.preorder.find? isFault).getD t).info := by
  have hwalk : t.preorder.find? isFault =
      ((Location.walk ⟨t, []⟩).find? (·.tree.isFault)).map (·.tree) := by
    rw [walk_eq_preorder, Location.preorder, ← map_tree_places t [], List.find?_map]
    rfl
  rw [firstFault?, if_pos h, hwalk]
  cases (Location.walk ⟨t, []⟩).find? (·.tree.isFault) with
  | none => rfl
  | some l => rfl

theorem exists_blames {t : Tree} (h : t.hasError = true) :
    ∃ u, t.Blames u ∧ t.firstFault? = some u.info := by
  refine ⟨_, ?_, firstFault?_eq h⟩
  cases hfind : t.preorder.find? isFault with
  | none =>
    rw [List.find?_eq_none] at hfind
    refine .top fun v hv => isFault_eq_false_iff.mp ?_
    simpa using hfind v hv
  | some u =>
    obtain ⟨hfault, front, back, horder, hfront⟩ := List.find?_eq_some_iff_append.mp hfind
    refine .first horder (isFault_iff.mp hfault) fun v hv => isFault_eq_false_iff.mp ?_
    simpa using hfront v hv

end Tree

end TruncIdiom.Syntax
