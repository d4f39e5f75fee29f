import TruncIdiom.Proofs.Syntax.Operand

/-!
Down through parentheses and up again.

Both ways go through the same pairs, so the outermost parentheses of what stands in some
parentheses are theirs as well (`outermost_unwrapped`). An operand therefore tells which node it is
an operand of: that node is the parent of its outermost parentheses (`parent?_of_operand?`).
-/

namespace TruncIdiom.Syntax

namespace Location

variable {l c : Location}

theorem parent?_of_mem_children (hc : c ∈ l.children) : c.parent? = some l := by
  obtain ⟨f, habove, hplug⟩ := exists_frame_of_mem_children hc
  rw [parent?, habove]
  show some (Location.mk (f.plug c.tree) l.above) = some l
  rw [hplug]

/-- Parentheses around a child are gone up through when it stands directly in them. -/
theorem outermost_of_mem_children (hc : c ∈ l.children) :
    c.outermost = if l.kind = parenthesized then l.outermost else c := by
  obtain ⟨f, habove, hplug⟩ := exists_frame_of_mem_children hc
  have hkind : f.parent.kind = l.kind := by
    rw [kind, ← hplug]
    rfl
  rw [outermost, habove, outermostIn, hplug, hkind, ← habove]
  rfl

theorem outermost_unwrapFrom (fuel : Nat) (l : Location) :
    (unwrapFrom fuel l).outermost = l.outermost := by
  induction fuel generalizing l with
  | zero => rfl
  | succ fuel ih =>
    rw [unwrapFrom]
    split
    · rename_i hkind
      split
      · rename_i inner hinner
        rw [ih, outermost_of_mem_children (mem_children_of_content hinner), if_pos hkind]
      · rfl
    · rfl

/-- Going down through parentheses stays inside the same outermost ones. -/
theorem outermost_unwrapped (l : Location) : l.unwrapped.outermost = l.outermost :=
  outermost_unwrapFrom l.tree.size l

/-! ## The node that an operand belongs to -/

variable {field : String} {x : Location}

theorem parent?_of_operand? (hl : l.kind ≠ parenthesized) (hx : l.operand? field = some x) :
    x.outermost.parent? = some l := by
  rw [operand?, Option.map_eq_some_iff] at hx
  obtain ⟨c, hc, rfl⟩ := hx
  have hmem := (of_childInField? hc).1
  rw [outermost_unwrapped, outermost_of_mem_children hmem, if_neg hl, parent?_of_mem_children hmem]

theorem eq_of_operand? {l' : Location} {field' : String} (hl : l.kind ≠ parenthesized)
    (hl' : l'.kind ≠ parenthesized) (hx : l.operand? field = some x)
    (hx' : l'.operand? field' = some x) : l = l' := by
  have hparent := parent?_of_operand? hl hx
  rw [parent?_of_operand? hl' hx'] at hparent
  exact (Option.some.inj hparent).symm

end Location

end TruncIdiom.Syntax
