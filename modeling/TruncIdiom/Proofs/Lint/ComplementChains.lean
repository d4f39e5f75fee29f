import TruncIdiom.Proofs.Lint.Exactness
import TruncIdiom.Proofs.Lint.Faults
import TruncIdiom.Proofs.Syntax.Parentheses

/-!
Chains of complements.

In `~~~x` each complement is the operand of the one before, with any parentheses between them. Only
the second innermost complement of a chain is reported: an outer one is over a complement whose
operand is a complement, and the innermost is over none (`doubled_getElem_iff`). So a chain has one
report at most, and as no two nodes have one operand, no complement is in two of the pairs that are
reported (`one_report_per_chain`).
-/

namespace TruncIdiom.Lint

open Text Syntax Rule

/-! ## Chains -/

/-- Complements each of which is the operand of the one before. -/
structure ComplementChain (source : Bytes) (chain : List Location) : Prop where
  complements : ∀ l ∈ chain, Complement source l
  links : chain.IsChain fun outer inner => outer.operand? "argument" = some inner

/-- A chain of complements of a tree that does not go on at either end. -/
structure MaximalChain (source : Bytes) (tree : Tree) (chain : List Location) : Prop
    extends ComplementChain source chain where
  placed : ∀ l ∈ chain, l ∈ tree.places []
  begins : ∀ first ∈ chain.head?, ∀ outer ∈ tree.places [], Complement source outer →
    outer.operand? "argument" ≠ some first
  ends : ∀ last ∈ chain.getLast?, ∀ target ∈ last.operand? "argument", ¬ Complement source target

def Doubled (source : Bytes) (l : Location) : Prop :=
  ∃ inner target, DoubleComplement source l inner target

section
variable {source : Bytes} {tree : Tree} {chain : List Location}

theorem Doubled.not_doubled_inner {outer inner : Location} (h : Doubled source outer)
    (hinner : outer.operand? "argument" = some inner) : ¬ Doubled source inner := by
  obtain ⟨again, target, h⟩ := h
  rintro ⟨next, last, h'⟩
  obtain rfl : again = inner := Option.some.inj (h.argument.symm.trans hinner)
  obtain rfl : target = next := Option.some.inj (h.operand.symm.trans h'.argument)
  exact h.last h'.again

/-- No complement stands two links behind a double complement. -/
theorem ComplementChain.length_le {n : Nat} (h : ComplementChain source chain)
    (hn : n < chain.length) (hdoubled : Doubled source chain[n]) : chain.length ≤ n + 2 := by
  by_contra hlong
  obtain ⟨inner, target, hdouble⟩ := hdoubled
  have hfirst := h.links.getElem n (by omega)
  have hsecond := h.links.getElem (n + 1) (by omega)
  rw [hdouble.argument] at hfirst
  rw [← Option.some.inj hfirst, hdouble.operand] at hsecond
  apply hdouble.last
  rw [Option.some.inj hsecond]
  exact h.complements _ (List.getElem_mem _)

theorem getLast?_eq_getElem {α : Type} {xs : List α} {n : Nat} (hn : n < xs.length)
    (hlast : n + 1 = xs.length) : xs.getLast? = some xs[n] := by
  rw [List.getLast?_eq_getElem?, ← hlast, Nat.add_sub_cancel, List.getElem?_eq_getElem hn]

/-- Of a chain that does not go on inside, the second innermost complement alone is double. -/
theorem MaximalChain.doubled_getElem_iff {n : Nat} (h : MaximalChain source tree chain)
    (hargument : ∀ last ∈ chain.getLast?, (last.operand? "argument").isSome)
    (hn : n < chain.length) : Doubled source chain[n] ↔ n + 2 = chain.length := by
  constructor
  · intro hdoubled
    have hle := h.toComplementChain.length_le hn hdoubled
    -- The innermost complement is over no other, so it is not the last one either.
    have hinner : n + 1 ≠ chain.length := by
      intro hlast
      obtain ⟨inner, target, hdouble⟩ := hdoubled
      exact h.ends _ (getLast?_eq_getElem hn hlast) inner hdouble.argument hdouble.again
    omega
  · intro hsecond
    have hnext : n + 1 < chain.length := by omega
    have hlast := getLast?_eq_getElem hnext hsecond
    obtain ⟨target, htarget⟩ := Option.isSome_iff_exists.mp (hargument _ hlast)
    exact ⟨chain[n + 1], target, h.complements _ (List.getElem_mem hn), h.links.getElem n hnext,
      h.complements _ (List.getElem_mem hnext), htarget, h.ends _ hlast target htarget⟩

theorem ComplementChain.doubled_unique (h : ComplementChain source chain) {l m : Location}
    (hl : l ∈ chain) (hm : m ∈ chain) (hldoubled : Doubled source l)
    (hmdoubled : Doubled source m) : l = m := by
  -- The later of two would be the one after the earlier, for the chain is at its end there.
  have hordered : ∀ i j : Nat, ∀ (hi : i < chain.length) (hj : j < chain.length), i < j →
      Doubled source chain[i] → ¬ Doubled source chain[j] := by
    intro i j hi hj hij hdoubled
    have hle := h.length_le hi hdoubled
    obtain rfl : j = i + 1 := by omega
    exact hdoubled.not_doubled_inner (h.links.getElem i hj)
  obtain ⟨i, hi, rfl⟩ := List.getElem_of_mem hl
  obtain ⟨j, hj, rfl⟩ := List.getElem_of_mem hm
  rcases Nat.lt_trichotomy i j with hij | rfl | hji
  · exact absurd hmdoubled (hordered i j hi hj hij hldoubled)
  · rfl
  · exact absurd hldoubled (hordered j i hj hi hji hmdoubled)

def InPair (l x : Location) : Prop := x = l ∨ l.operand? "argument" = some x

theorem eq_of_inPair {l m x : Location} (hl : Doubled source l) (hm : Doubled source m)
    (hlx : InPair l x) (hmx : InPair m x) : l = m := by
  have hunary : ∀ {o : Location}, Doubled source o → o.kind ≠ parenthesized := by
    rintro o ⟨inner, target, h⟩
    rw [h.outer.1]
    decide
  rcases hlx with rfl | hlx
  · rcases hmx with rfl | hmx
    · rfl
    · exact absurd hl (hm.not_doubled_inner hmx)
  · rcases hmx with rfl | hmx
    · exact absurd hm (hl.not_doubled_inner hlx)
    · exact Location.eq_of_operand? (hunary hl) (hunary hm) hlx hmx

end

/-! ## Reports -/

def ReportsDoubleNot (linter : Linter) (source : Bytes) (l : Location) : Prop :=
  ∃ r ∈ linter.reportsAt source l, r.2.messageId = "error-bitwise-not"

instance (linter : Linter) (source : Bytes) (l : Location) :
    Decidable (ReportsDoubleNot linter source l) :=
  inferInstanceAs (Decidable (∃ r ∈ linter.reportsAt source l, _))

section
variable {linter : Linter} {source : Bytes} {l : Location}

theorem doubled_iff : Doubled source l ↔ Idiom source l ∧ Complement source l := by
  constructor
  · rintro ⟨inner, target, h⟩
    exact ⟨.complement h, h.outer⟩
  · rintro ⟨hidiom, hcomplement⟩
    cases hidiom with
    | complement h => exact ⟨_, _, h⟩
    | zero h =>
      exfalso
      rcases h.operator with ⟨hkind, -⟩ | ⟨hkind, -⟩
      · rw [hcomplement.1] at hkind
        exact absurd hkind (by decide)
      · rw [hcomplement.1] at hkind
        exact absurd hkind (by decide)

theorem linter_reportsAt (hrules : linter.rules = defaultRules) :
    linter.reportsAt source l =
      (truncationRule.reportsAt (linter.context source) l).map (truncationInfo, ·) := by
  rw [Linter.reportsAt, hrules, defaultRules, List.flatMap_singleton]
  rfl

theorem reportsDoubleNot_iff (hrules : linter.rules = defaultRules) (hl : l.whole.Nested) :
    ReportsDoubleNot linter source l ↔ Doubled source l := by
  rw [ReportsDoubleNot, linter_reportsAt hrules, doubled_iff]
  by_cases hidiom : Idiom (linter.context source).source l
  · obtain ⟨d, hd, hreports⟩ := reportsAt_of_idiom hl hidiom
    have hid := messageId_of_reports hreports
    have hidiom : Idiom source l := hidiom
    rw [hd]
    simp only [List.map_cons, List.map_nil, List.mem_singleton, exists_eq_left, hidiom, true_and]
    rw [hid]
    show (if Complement source l then _ else _) = _ ↔ _
    by_cases hcomplement : Complement source l
    · rw [if_pos hcomplement]
      exact ⟨fun _ => hcomplement, fun _ => rfl⟩
    · rw [if_neg hcomplement]
      exact ⟨fun h => absurd h (by decide), fun h => absurd h hcomplement⟩
  · rw [reportsAt_of_not_idiom hidiom]
    have hidiom : ¬ Idiom source l := hidiom
    simp [hidiom]

/-- The messages about double complements are those of the places reported as such, one for
each. -/
theorem found_doubleNots (hrules : linter.rules = defaultRules) {tree : Tree}
    (hnested : tree.Nested) :
    List.Forall₂ (Announces source linter.config)
      ((tree.places []).filter (ReportsDoubleNot linter source ·))
      ((linter.found source tree).filter (·.messageId = some "error-bitwise-not")) := by
  rw [found_eq_flatMap hrules, List.filter_flatMap]
  refine forall₂_filter_flatMap ?_ ?_
  · intro l hl hreported
    have hwhole : l.whole.Nested := by rwa [mem_places_iff.mp hl]
    have hdoubled := doubled_iff.mp ((reportsDoubleNot_iff hrules hwhole).mp hreported)
    have hidiom : Idiom (linter.context source).source l := hdoubled.1
    obtain ⟨d, hd, hreports⟩ := reportsAt_of_idiom hwhole hidiom
    have hannounces := announces_of_reports hreports
    refine ⟨_, ?_, hannounces⟩
    rw [hd, List.map_singleton, List.filter_singleton, hannounces.messageId, if_pos hdoubled.2]
    rfl
  · intro l hl hreported
    rw [List.filter_eq_nil_iff]
    intro m hm
    obtain ⟨d, hd, rfl⟩ := List.mem_map.mp hm
    intro hid
    apply hreported
    refine ⟨(truncationInfo, d), ?_, ?_⟩
    · rw [linter_reportsAt hrules]
      exact List.mem_map_of_mem hd
    · exact Option.some.inj (of_decide_eq_true hid)

/-- A maximal chain of complements over an operand has one report, at its second innermost
complement, when it has more than one complement, and none otherwise. So no complement is in two of
the pairs that are reported, and no chain leads from one report to another. -/
theorem one_report_per_chain (linter : Linter) (source : Bytes) (path : String)
    (hrules : linter.rules = defaultRules) (henabled : linter.config.severity ≠ .off)
    (herror : (linter.parser source).hasError = false)
    (hnested : (linter.parser source).Nested) :
    (∃ told : List Message,
      told.Perm ((linter.lint source path).messages.filter
        (·.messageId = some "error-bitwise-not")) ∧
      List.Forall₂ (Announces source linter.config)
        (((linter.parser source).places []).filter (ReportsDoubleNot linter source ·)) told) ∧
    (∀ chain, MaximalChain source (linter.parser source) chain →
      (∀ last ∈ chain.getLast?, (last.operand? "argument").isSome) →
      (2 ≤ chain.length → ∃ l, chain[chain.length - 2]? = some l ∧
        ∀ m ∈ chain, ReportsDoubleNot linter source m ↔ m = l) ∧
      (chain.length = 1 → ∀ m ∈ chain, ¬ ReportsDoubleNot linter source m)) ∧
    (∀ l ∈ (linter.parser source).places [], ∀ m ∈ (linter.parser source).places [],
      ReportsDoubleNot linter source l → ReportsDoubleNot linter source m →
      ∀ x, InPair l x → InPair m x → l = m) ∧
    (∀ chain, ComplementChain source chain → (∀ l ∈ chain, l ∈ (linter.parser source).places []) →
      ∀ l ∈ chain, ∀ m ∈ chain,
        ReportsDoubleNot linter source l → ReportsDoubleNot linter source m → l = m) := by
  have hreports : ∀ l ∈ (linter.parser source).places [],
      (ReportsDoubleNot linter source l ↔ Doubled source l) := by
    intro l hl
    exact reportsDoubleNot_iff hrules (by rwa [mem_places_iff.mp hl])
  refine ⟨?_, ?_, ?_, ?_⟩
  · have henabled : linter.config.enabled = true := decide_eq_true henabled
    exact ⟨_, (messages_perm_found henabled herror).symm.filter _,
      found_doubleNots hrules hnested⟩
  · intro chain hchain hargument
    have hindex : ∀ n, ∀ hn : n < chain.length,
        (ReportsDoubleNot linter source chain[n] ↔ n + 2 = chain.length) := by
      intro n hn
      rw [hreports _ (hchain.placed _ (List.getElem_mem hn)),
        hchain.doubled_getElem_iff hargument hn]
    constructor
    · intro hlong
      have hsecond : chain.length - 2 < chain.length := by omega
      refine ⟨chain[chain.length - 2], List.getElem?_eq_getElem hsecond, ?_⟩
      intro m hm
      obtain ⟨n, hn, rfl⟩ := List.getElem_of_mem hm
      constructor
      · intro hreported
        obtain rfl : n = chain.length - 2 := by
          have := (hindex n hn).mp hreported
          omega
        rfl
      · intro heq
        rw [heq]
        exact (hindex _ hsecond).mpr (by omega)
    · intro hone m hm hreported
      obtain ⟨n, hn, rfl⟩ := List.getElem_of_mem hm
      have := (hindex n hn).mp hreported
      omega
  · intro l hl m hm hlreported hmreported x hlx hmx
    exact eq_of_inPair ((hreports l hl).mp hlreported) ((hreports m hm).mp hmreported) hlx hmx
  · intro chain hchain hplaced l hl m hm hlreported hmreported
    exact hchain.doubled_unique hl hm ((hreports l (hplaced l hl)).mp hlreported)
      ((hreports m (hplaced m hm)).mp hmreported)

end

/-- A chain of three complements, two of them in parentheses. -/
def threeComplements : Bytes := encode "~(/**/~~a);"

/-- The complement in the middle of three is reported, and no other. -/
theorem one_report_per_chain_three :
    ((scriptLinter.lint threeComplements "f").messages.map (·.start)) = [6] ∧
      ∃ chain, MaximalChain threeComplements (scriptLinter.parser threeComplements) chain ∧
        chain.length = 3 ∧ ∃ l, chain[1]? = some l ∧
          ∀ m ∈ chain, ReportsDoubleNot scriptLinter threeComplements m ↔ m = l := by
  have hplaces : ∀ a ∈ ((scriptLinter.parser threeComplements).places []).find?
      (Complement threeComplements ·), Complement threeComplements a ∧
        (a.outermost.parent?.map (·.kind) = some "expression_statement") ∧
        ∃ b ∈ a.operand? "argument", Complement threeComplements b ∧
        ∃ c ∈ b.operand? "argument", Complement threeComplements c ∧
        ∃ x ∈ c.operand? "argument", ¬ Complement threeComplements x := by
    decide +kernel
  have hsome : (((scriptLinter.parser threeComplements).places []).find?
      (Complement threeComplements ·)).isSome := by decide +kernel
  obtain ⟨a, hfound⟩ := Option.isSome_iff_exists.mp hsome
  obtain ⟨ha, hparent, b, hab, hb, c, hbc, hc, x, hcx, hx⟩ := hplaces a hfound
  have haplaced := List.mem_of_find?_eq_some hfound
  have hawhole := mem_places_iff.mp haplaced
  have hbwhole := (Location.whole_of_operand? hab).trans hawhole
  have hcwhole := (Location.whole_of_operand? hbc).trans hbwhole
  have hchain : MaximalChain threeComplements (scriptLinter.parser threeComplements) [a, b, c] := by
    refine ⟨⟨?_, ?_⟩, ?_, ?_, ?_⟩
    · simp [ha, hb, hc]
    · simpa using ⟨hab, hbc⟩
    · simp [mem_places_iff, hawhole, hbwhole, hcwhole]
    · rintro first ⟨⟩ outer - houter hlink
      have hkind : outer.kind ≠ parenthesized := by
        rw [houter.1]
        decide
      rw [Location.parent?_of_operand? hkind hlink, Option.map_some, houter.1] at hparent
      exact absurd hparent (by decide)
    · rintro last ⟨⟩ target htarget
      obtain rfl := Option.some.inj (htarget.symm.trans hcx)
      exact hx
  have hargument : ∀ last ∈ [a, b, c].getLast?, (last.operand? "argument").isSome := by
    rintro last ⟨⟩
    exact Option.isSome_iff_exists.mpr ⟨x, hcx⟩
  refine ⟨by decide +kernel, [a, b, c], hchain, rfl, ?_⟩
  exact ((one_report_per_chain scriptLinter threeComplements "f" rfl (by decide) (by decide +kernel)
    (by decide +kernel)).2.1 [a, b, c] hchain hargument).1 (by simp)

end TruncIdiom.Lint
