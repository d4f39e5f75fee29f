import TruncIdiom.Proofs.Syntax.Layout

/-!
Operands and operators.

The child that fills a field is the same one for a tree and for a place of it. An operand lies
inside the child that fills its field, and children that fill different fields are apart, so what
is written over an operator never meets what is written over an operand. A node whose operator has
a text covers at least one byte.
-/

namespace TruncIdiom.Syntax

open Text

namespace Location

variable {l c : Location} {field : String}

/-! ## Children by field -/

theorem map_tree_siblingsFrom (parent : NodeInfo) (above : List Frame) (before ts : List Tree) :
    (siblingsFrom parent above before ts).map (·.tree) = ts := by
  induction ts generalizing before with
  | nil => rfl
  | cons t ts ih => rw [siblingsFrom, List.map_cons, ih]

theorem map_tree_childInField? (l : Location) (field : String) :
    (l.childInField? field).map (·.tree) = l.tree.childInField? field := by
  rw [Tree.childInField?, ← map_tree_siblingsFrom l.info l.above [] l.tree.children, List.find?_map]
  rfl

theorem of_childInField? (h : l.childInField? field = some c) :
    c ∈ l.children ∧ c.info.field = some field :=
  ⟨List.mem_of_find?_eq_some h, by simpa using List.find?_some h⟩

theorem apart_of_childInField? {d : Location} {field' : String} (h : l.whole.Nested)
    (hc : l.childInField? field = some c) (hd : l.childInField? field' = some d)
    (hne : field ≠ field') : c.info.stop ≤ d.info.start ∨ d.info.stop ≤ c.info.start := by
  obtain ⟨hcmem, hcfield⟩ := of_childInField? hc
  obtain ⟨hdmem, hdfield⟩ := of_childInField? hd
  refine apart_of_mem_children h hcmem hdmem ?_
  rintro rfl
  exact hne (Option.some.inj (hcfield.symm.trans hdfield))

/-! ## Operands -/

theorem of_operand? {x : Location} (h : l.operand? field = some x) :
    ∃ c, l.childInField? field = some c ∧ x ∈ c.preorder := by
  rw [operand?, Option.map_eq_some_iff] at h
  obtain ⟨c, hc, rfl⟩ := h
  exact ⟨c, hc, unwrapped_mem_preorder c⟩

theorem whole_of_operand? {x : Location} (h : l.operand? field = some x) : x.whole = l.whole := by
  obtain ⟨c, hc, hx⟩ := of_operand? h
  rw [whole_of_mem_preorder hx, whole_of_mem_children (of_childInField? hc).1]

theorem inside_of_operand? {x : Location} (h : l.whole.Nested) (hx : l.operand? field = some x) :
    ∃ c, l.childInField? field = some c ∧ x.info.Inside c.info := by
  obtain ⟨c, hc, hmem⟩ := of_operand? hx
  have hnested : c.whole.Nested := by rwa [whole_of_mem_children (of_childInField? hc).1]
  exact ⟨c, hc, (nested_of_mem_preorder (nested_of_whole hnested) hmem).2⟩

end Location

/-! ## Operators -/

theorem NodeInfo.start_lt_stop {info : NodeInfo} {source : Bytes} (h : info.text source ≠ "") :
    info.start < info.stop := by
  rcases Nat.lt_or_ge info.start info.stop with hlt | hge
  · exact hlt
  · refine absurd ?_ h
    rw [text, between, List.drop_of_length_le (by rw [List.length_take]; omega)]
    rfl

namespace Location

variable {l : Location} {source : Bytes}

theorem exists_operator (h : l.tree.operatorText source ≠ "") :
    ∃ operator, l.childInField? "operator" = some operator ∧
      operator.info.start < operator.info.stop := by
  rw [Tree.operatorText, ← map_tree_childInField?] at h
  cases hoperator : l.childInField? "operator" with
  | none =>
    rw [hoperator] at h
    exact absurd rfl h
  | some operator =>
    rw [hoperator] at h
    exact ⟨operator, rfl, NodeInfo.start_lt_stop h⟩

theorem start_lt_stop_of_operatorText (hl : l.whole.Nested)
    (h : l.tree.operatorText source ≠ "") : l.info.start < l.info.stop := by
  obtain ⟨operator, hoperator, hlt⟩ := exists_operator h
  obtain ⟨hstart, hstop⟩ := inside_of_mem_children hl (of_childInField? hoperator).1
  omega

end Location

end TruncIdiom.Syntax
