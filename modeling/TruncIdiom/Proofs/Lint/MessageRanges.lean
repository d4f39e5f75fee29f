import Mathlib.Data.Prod.Lex
import TruncIdiom.Proofs.Lint.Exactness

/-!
Messages end no earlier than they begin.

Places are ordered by line and then by column, and going forward in a source never goes back in that
order (`monotone_place`), not even from one byte of a character to the next or among bytes that are
no text. A node of a nested tree does not end before it starts, so neither does a message about one
(`places_go_forward`).
-/

namespace TruncIdiom

open Text Syntax Rule

namespace Text

/-- A line and a column, the line counting first. -/
def Position.place (p : Position) : Nat ×ₗ Nat := toLex (p.line, p.column)

theorem Position.place_le_place {p q : Position} : p.place ≤ q.place ↔ p.le q = true := by
  rw [Position.le_iff]
  exact Prod.Lex.toLex_le_toLex

theorem monotone_place (source : Bytes) :
    Monotone fun offset : Nat => (Position.ofOffset source offset).place := by
  intro a b h
  exact Position.place_le_place.mpr (ofOffset_le_ofOffset source h)

end Text

def Rule.PointsInto (rule : Rule) (tree : Tree) : Prop :=
  ∀ (ctx : CheckContext) (l : Location), l.whole = tree → ∀ d ∈ rule.reportsAt ctx l,
    ∃ p : Location, p.whole = tree ∧ d.node = p.info

namespace Lint

theorem truncationRule_pointsInto {tree : Tree} (hnested : tree.Nested) :
    truncationRule.PointsInto tree := by
  intro ctx l hwhole d hd
  have hl : l.whole.Nested := hwhole ▸ hnested
  exact ⟨l, hwhole, node_of_reports (reports_of_mem_reportsAt hl hd)⟩

section
variable {linter : Linter} {source : Bytes} {m : Message}

theorem place_le_of_mem_found {tree : Tree} (hnested : tree.Nested)
    (hpoints : ∀ rule ∈ linter.rules, rule.PointsInto tree) (h : m ∈ linter.found source tree) :
    m.position.place ≤ m.endPosition.place := by
  obtain ⟨⟨info, d⟩, hreported, rfl⟩ := List.mem_map.mp h
  rw [Linter.reports, walk_eq_preorder] at hreported
  obtain ⟨l, hl, hreported⟩ := List.mem_flatMap.mp hreported
  obtain ⟨rule, hrule, hreported⟩ := List.mem_flatMap.mp hreported
  obtain ⟨d', hd, heq⟩ := List.mem_map.mp hreported
  obtain ⟨rfl, rfl⟩ := Prod.mk.inj heq
  obtain ⟨p, rfl, hnode⟩ := hpoints rule hrule _ l (whole_of_mem_preorder hl) d' hd
  have hforward : d'.node.start ≤ d'.node.stop := hnode ▸ Location.start_le_stop hnested
  exact monotone_place source hforward

theorem place_le_of_mem_messages (hnested : (linter.parser source).Nested)
    (hpoints : ∀ rule ∈ linter.rules, rule.PointsInto (linter.parser source))
    (h : m ∈ linter.messages source) : m.position.place ≤ m.endPosition.place := by
  rcases mem_messages h with ⟨-, node, rfl⟩ | hfound
  · exact le_refl _
  · exact place_le_of_mem_found hnested hpoints hfound

end

/-- Places go forward with offsets, over any bytes, and count from one; lines go forward by the
newlines passed over. So every message about a node of a nested tree ends no earlier than it begins,
and all messages of the default rules are about such nodes. -/
theorem places_go_forward :
    (∀ source : Bytes, Monotone fun offset : Nat => (Position.ofOffset source offset).place) ∧
    (∀ (source : Bytes) (offset : Nat), 1 ≤ (Position.ofOffset source offset).line ∧
      1 ≤ (Position.ofOffset source offset).column) ∧
    (∀ (source : Bytes) (a b : Nat), a ≤ b → (Position.ofOffset source b).line =
      (Position.ofOffset source a).line + (between source a b).count newline) ∧
    (∀ (linter : Linter) (source : Bytes) (path : String), (linter.parser source).Nested →
      (∀ rule ∈ linter.rules, rule.PointsInto (linter.parser source)) →
      ∀ m ∈ (linter.lint source path).messages, m.position.place ≤ m.endPosition.place) ∧
    ∀ tree : Tree, tree.Nested → ∀ rule ∈ defaultRules, rule.PointsInto tree := by
  refine ⟨monotone_place, ?_, fun source a b h => line_ofOffset source h, ?_, ?_⟩
  · intro source offset
    exact ⟨Nat.le_add_left 1 _, Nat.le_add_left 1 _⟩
  · intro linter source path hnested hpoints m hm
    exact place_le_of_mem_messages hnested hpoints hm
  · intro tree hnested rule hrule
    obtain rfl := List.mem_singleton.mp hrule
    exact truncationRule_pointsInto hnested

/-- A comment that breaks off a character after two of its three bytes, and a double complement on
the line behind it. -/
def brokenComment : Bytes := [0x2F, 0x2A, 0xE2, 0x82, 0x2A, 0x2F] ++ encode "\n~~a"

/-- In the broken character the place stands still, and the complement is one line down. -/
theorem places_go_forward_brokenComment :
    Position.ofOffset brokenComment 3 = ⟨1, 4⟩ ∧ Position.ofOffset brokenComment 4 = ⟨1, 4⟩ ∧
      ((scriptLinter.lint brokenComment "f").messages.map fun m =>
        (m.position, m.endPosition)) = [(⟨2, 1⟩, ⟨2, 4⟩)] ∧
      (Position.ofOffset brokenComment 3).place ≤ (Position.ofOffset brokenComment 4).place ∧
      (Position.ofOffset brokenComment 7).line = (Position.ofOffset brokenComment 3).line + 1 ∧
      ∀ m ∈ (scriptLinter.lint brokenComment "f").messages,
        m.position.place ≤ m.endPosition.place := by
  obtain ⟨hplaces, -, hlines, hmessages, hdefault⟩ := places_go_forward
  have hnested : (scriptLinter.parser brokenComment).Nested := by decide +kernel
  refine ⟨by decide, by decide, by decide +kernel, hplaces brokenComment (by decide : 3 ≤ 4),
    hlines brokenComment 3 7 (by decide), ?_⟩
  exact hmessages scriptLinter brokenComment "f" hnested (hdefault _ hnested)

end Lint

end TruncIdiom
