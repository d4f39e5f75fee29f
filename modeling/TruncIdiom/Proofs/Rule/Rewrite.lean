import TruncIdiom.Proofs.Edit.Script
import TruncIdiom.Proofs.Rule.Idiom

/-!
The edits that rewrite an idiom.

An operation or a double complement is replaced as a whole, with a blank where a keyword would run
into what replaces it (`rewriteEdits`); of an assignment the operator and the zero are replaced
(`assignmentEdits`). Over a nested tree neither overlaps itself, in whatever order the edits are
made, so every fix of the rule is a script.
-/

namespace TruncIdiom.Rule

open Text Syntax

/-! ## Edits at a node -/

def nodeEdit (node : NodeInfo) (text : String) (h : node.start ≤ node.stop) : Edit :=
  ⟨node.start, node.stop, text, h⟩

theorem replaceNode_eq {node : NodeInfo} (h : node.start ≤ node.stop) (text : String) :
    replaceNode node text = .ok (nodeEdit node text h) :=
  Edit.make_natCast h text

/-! ## Blanks -/

def KeywordBefore (outer : Location) : Prop :=
  ∃ token ∈ outer.previousLeaf?,
    token.info.stop = outer.info.start ∧ token.info.isKeyword = true

instance (outer : Location) : Decidable (KeywordBefore outer) :=
  inferInstanceAs (Decidable (∃ token ∈ outer.previousLeaf?, _ ∧ _))

def KeywordAfter (outer : Location) : Prop :=
  ∃ token ∈ outer.nextLeaf?, token.info.start = outer.info.stop ∧ token.info.isKeyword = true

instance (outer : Location) : Decidable (KeywordAfter outer) :=
  inferInstanceAs (Decidable (∃ token ∈ outer.nextLeaf?, _ ∧ _))

/-- The edit that puts in a blank at an offset, if one is asked for. -/
def blankIf (p : Prop) [Decidable p] (offset : Nat) : List Edit :=
  if p then [⟨offset, offset, " ", Nat.le_refl offset⟩] else []

theorem span_of_mem_blankIf {p : Prop} [Decidable p] {offset : Nat} {e : Edit}
    (h : e ∈ blankIf p offset) : e.start = offset ∧ e.stop = offset := by
  unfold blankIf at h
  split at h
  · obtain rfl := List.mem_singleton.mp h
    exact ⟨rfl, rfl⟩
  · cases h

theorem spaceBefore_eq (outer : Location) :
    spaceBefore outer = .ok (blankIf (KeywordBefore outer) outer.info.start) := by
  rw [blankIf]
  split
  · next h =>
    obtain ⟨token, htoken, htouch, hkeyword⟩ := h
    simp only [spaceBefore, Option.mem_def.mp htoken]
    rw [if_pos ⟨htouch, hkeyword⟩, insertAfter, Edit.make_natCast (Nat.le_refl _)]
    simp only [htouch]
    rfl
  · next h =>
    rw [spaceBefore]
    split
    · next token htoken => rw [if_neg fun hkeyword => h ⟨token, htoken, hkeyword⟩]; rfl
    · rfl

theorem spaceAfter_eq (outer : Location) :
    spaceAfter outer = .ok (blankIf (KeywordAfter outer) outer.info.stop) := by
  rw [blankIf]
  split
  · next h =>
    obtain ⟨token, htoken, htouch, hkeyword⟩ := h
    simp only [spaceAfter, Option.mem_def.mp htoken]
    rw [if_pos ⟨htouch, hkeyword⟩, insertBefore, Edit.make_natCast (Nat.le_refl _)]
    simp only [htouch]
    rfl
  · next h =>
    rw [spaceAfter]
    split
    · next token htoken => rw [if_neg fun hkeyword => h ⟨token, htoken, hkeyword⟩]; rfl
    · rfl

theorem keywordSpacing_eq (l : Location) :
    keywordSpacing l = .ok (blankIf (KeywordBefore l.outermost) l.outermost.info.start ++
      blankIf (KeywordAfter l.outermost) l.outermost.info.stop) := by
  rw [keywordSpacing, spaceBefore_eq, spaceAfter_eq]
  rfl

/-! ## A node replaced -/

/-- The edits that put a text in the place of a node, in source order: the blanks stand at the ends
of the parentheses around it. -/
def rewriteEdits (l : Location) (text : String) (h : l.info.start ≤ l.info.stop) : List Edit :=
  blankIf (KeywordBefore l.outermost) l.outermost.info.start ++
    nodeEdit l.info text h :: blankIf (KeywordAfter l.outermost) l.outermost.info.stop

theorem disjoint_rewriteEdits {l : Location} (hl : l.whole.Nested) (text : String) :
    overlapAfter 0 (rewriteEdits l text (Location.start_le_stop hl)) = none := by
  obtain ⟨hstart, hstop⟩ := Location.inside_outermost hl
  -- One case for each set of blanks that are put in.
  simp only [rewriteEdits, nodeEdit, blankIf]
  split <;> split <;> simp [hstart, hstop]

/-- A blank has no width and the node has, so their spans tell them apart. -/
theorem told_rewriteEdits {l : Location} (hl : l.whole.Nested) (text : String)
    (hwidth : l.info.start < l.info.stop) :
    (rewriteEdits l text (Location.start_le_stop hl)).Pairwise Edit.ToldBySpan := by
  obtain ⟨hstart, hstop⟩ := Location.inside_outermost hl
  simp only [rewriteEdits, nodeEdit, blankIf]
  split <;> split <;> simp [Edit.ToldBySpan] <;> omega

theorem ofEdits_rewriteEdits {l : Location} (hl : l.whole.Nested) {text : String}
    (hwidth : l.info.start < l.info.stop) {edits : List Edit}
    (h : edits.Perm (rewriteEdits l text (Location.start_le_stop hl))) :
    ∃ script, EditScript.ofEdits edits = .ok script ∧
      script.edits = rewriteEdits l text (Location.start_le_stop hl) := by
  have hnonempty : rewriteEdits l text (Location.start_le_stop hl) ≠ [] := by
    simp [rewriteEdits]
  exact ⟨_, EditScript.ofEdits_of_perm h hnonempty (disjoint_rewriteEdits hl text)
    (told_rewriteEdits hl text hwidth), rfl⟩

/-! ## An assignment -/

/-- The edits that turn an operator into an equals sign and put a text in the place of a value, in
source order. -/
def assignmentEdits (operator value : NodeInfo) (text : String)
    (hoperator : operator.start ≤ operator.stop) (hvalue : value.start ≤ value.stop) : List Edit :=
  if operator.start ≤ value.start then
    [nodeEdit operator "=" hoperator, nodeEdit value text hvalue]
  else
    [nodeEdit value text hvalue, nodeEdit operator "=" hoperator]

theorem mem_assignmentEdits {operator value : NodeInfo} {text : String}
    {hoperator : operator.start ≤ operator.stop} {hvalue : value.start ≤ value.stop} {e : Edit} :
    e ∈ assignmentEdits operator value text hoperator hvalue ↔
      e = nodeEdit operator "=" hoperator ∨ e = nodeEdit value text hvalue := by
  unfold assignmentEdits
  split
  · simp
  · simp [or_comm]

/-- The equals sign first, as the fix makes the edits: they are a script all the same. -/
theorem ofEdits_assignmentEdits {operator value : NodeInfo} (text : String)
    (hoperator : operator.start < operator.stop) (hvalue : value.start < value.stop)
    (hapart : operator.stop ≤ value.start ∨ value.stop ≤ operator.start) :
    ∃ script, EditScript.ofEdits [nodeEdit operator "=" (Nat.le_of_lt hoperator),
        nodeEdit value text (Nat.le_of_lt hvalue)] = .ok script ∧
      script.edits =
        assignmentEdits operator value text (Nat.le_of_lt hoperator) (Nat.le_of_lt hvalue) := by
  have hsorted : overlapAfter 0 (assignmentEdits operator value text (Nat.le_of_lt hoperator)
      (Nat.le_of_lt hvalue)) = none := by
    unfold assignmentEdits
    split <;> simp [nodeEdit] <;> omega
  refine ⟨_, EditScript.ofEdits_of_perm ?_ ?_ hsorted ?_, rfl⟩
  · unfold assignmentEdits
    split
    · exact List.Perm.refl _
    · exact List.Perm.swap _ _ []
  · unfold assignmentEdits
    split <;> simp
  · unfold assignmentEdits
    split <;> simp [nodeEdit, Edit.ToldBySpan] <;> omega

end TruncIdiom.Rule
