import TruncIdiom.Proofs.Lint.Exactness
import TruncIdiom.Proofs.Text.Lines
import TruncIdiom.Proofs.Workspace.FileMap
import TruncIdiom.Workspace.FileLinting
import TruncIdiom.Workspace.Window

/-!
What is served of a file is what is reported of it.

The lines served of a source within the limit are those that positions count, and a window around a
line has it under its number (`shows_around`). So the lines and a position together lead back to the
offset, and the window around a message shows the line of the message (`served_as_reported`). A
content that is taken for no source is neither served nor linted.
-/

namespace TruncIdiom.Workspace

open Text Json Lint Rule FileMap

/-! ## Windows -/

section
variable {α : Type}

theorem boundOffset_of_nonneg (size : Nat) {bound : Int} (h : 0 ≤ bound) :
    boundOffset size bound = min size bound.toNat := by
  rw [boundOffset, if_neg (by omega)]

theorem getElem?_between (xs : List α) (start stop i : Nat) :
    (between xs start stop)[i]? = if start + i < stop then xs[start + i]? else none := by
  rw [between, List.getElem?_drop, List.getElem?_take]

end

theorem getElem?_around {lines : List String} {target reach : Int} (htarget : 1 ≤ target)
    (hreach : 0 ≤ reach) {number : Nat} (hfirst : (Window.around lines target reach).first ≤ number)
    (hlast : (number : Int) ≤ (Window.around lines target reach).last) :
    (Window.around lines target reach).lines[
      (number - (Window.around lines target reach).first).toNat]? = lines[number - 1]? := by
  simp only [Window.around] at hfirst hlast ⊢
  rw [slice, boundOffset_of_nonneg _ (by omega), boundOffset_of_nonneg _ (by omega),
    getElem?_between]
  rw [if_pos (by omega)]
  congr 1
  omega

/-- A line that stands in a window under a number. -/
def Window.Shows (w : Window) (number : Nat) (line : String) : Prop :=
  ∃ front back, w.lines = front ++ line :: back ∧ w.first + front.length = number

theorem shows_around {lines : List String} {number : Nat} {reach : Int} {line : String}
    (hnumber : 1 ≤ number) (hreach : 0 ≤ reach) (hline : lines[number - 1]? = some line) :
    (Window.around lines number reach).Shows number line := by
  obtain ⟨hlt, -⟩ := List.getElem?_eq_some_iff.mp hline
  have hfirst : (Window.around lines number reach).first ≤ number := by
    simp only [Window.around]
    omega
  have hlast : (number : Int) ≤ (Window.around lines number reach).last := by
    simp only [Window.around]
    omega
  have hshown := getElem?_around (by omega) hreach hfirst hlast
  rw [hline] at hshown
  obtain ⟨hlt, hget⟩ := List.getElem?_eq_some_iff.mp hshown
  have hsplit := List.take_append_drop
    (number - (Window.around lines number reach).first).toNat
    (Window.around lines number reach).lines
  rw [List.drop_eq_getElem_cons hlt, hget] at hsplit
  refine ⟨_, _, hsplit.symm, ?_⟩
  rw [List.length_take, Nat.min_eq_left (Nat.le_of_lt hlt)]
  omega

/-! ## Files -/

section
variable {m : FileMap} {root path : String} {content : Bytes} {limit : Value}

/-- What is served around a line of a file: a window that has the line under its number, plain or
with numbers. -/
structure Serves (m : FileMap) (root : String) (limit : Value) (path : String)
    (lines : List String) (number : Nat) (reach : Int) : Prop where
  shown : ∃ line, lines[number - 1]? = some line ∧
    (Window.around lines number reach).Shows number line
  plain : codeContext m root limit path number reach false =
    .ok (Window.around lines number reach).plain
  numbered : codeContext m root limit path number reach true =
    .ok ((Window.around lines number reach).numbered number)

theorem servedLines_of_not_exceeds
    (hlimit : exceeds (linesOf (decode content)).length limit = .ok false) :
    servedLines content limit = .ok (linesOf (decode content)) := by
  simp only [servedLines, hlimit]
  rfl

theorem codeContext_of_source {lines : List String}
    (hsource : m.readSource? (resolvePath root path) = some content)
    (hlines : servedLines content limit = .ok lines) (target reach : Int) (numbered : Bool) :
    codeContext m root limit path target reach numbered =
      .ok (if numbered then (Window.around lines target reach).numbered target
        else (Window.around lines target reach).plain) := by
  unfold codeContext
  rw [hsource]
  show (servedLines content limit >>= _) = _
  rw [hlines]
  rfl

theorem codeContext_of_none (hnone : m.readSource? (resolvePath root path) = none)
    (limit : Value) (target reach : Int) (numbered : Bool) :
    codeContext m root limit path target reach numbered = .ok ("Error: Cannot read " ++ path) := by
  unfold codeContext
  rw [hnone]

/-- Of a source that is a text with no more lines than the limit, the lines served are the lines
that positions count, and around the line of a position the window has it under its number. A file
with a NUL at its front is neither served nor linted. -/
theorem served_as_reported (linter : Linter) (m : FileMap) (root path : String) {content : Bytes}
    {limit : Value} (hread : m.read? (resolvePath root path) = some content)
    (htext : encode (decode content) = content)
    (hlimit : exceeds (lineCount content) limit = .ok false) :
    if isSource content then
      ∃ lines, servedLines content limit = .ok lines ∧ Lined (decode content) lines ∧
        lines.length = lineCount content ∧
        (∀ offset < content.length, Boundary content offset →
          Pinpoints lines (.ofOffset content offset) (content.take offset) ∧
          ∀ reach, 0 ≤ reach →
            Serves m root limit path lines (Position.ofOffset content offset).line reach) ∧
        (∀ a b, Boundary content a → Boundary content b →
          Position.ofOffset content a = .ofOffset content b → a = b) ∧
        ∀ message ∈ (lintFile linter m (resolvePath root path)).messages,
          message.position = .ofOffset content message.start
    else
      (∀ target reach numbered, codeContext m root limit path target reach numbered =
        .ok ("Error: Cannot read " ++ path)) ∧
      (lintFile linter m (resolvePath root path)).messages = [] := by
  split
  · next hsource =>
    have hread := readSource?_eq_some.mpr ⟨hread, hsource⟩
    have hcount : (linesOf (decode content)).length = lineCount content := by
      rw [length_linesOf, htext]
    have hserved : servedLines content limit = .ok (linesOf (decode content)) :=
      servedLines_of_not_exceeds (by rw [hcount]; exact hlimit)
    refine ⟨linesOf (decode content), hserved, lined_linesOf _, hcount, ?_, ?_, ?_⟩
    · intro offset hlt hboundary
      have hpinpoints := pinpoints_ofOffset hboundary hlt
      refine ⟨hpinpoints, ?_⟩
      intro reach hreach
      have hline : (Position.ofOffset content offset).line - 1 <
          (linesOf (decode content)).length := by
        have hpos := hpinpoints.line_pos
        have hle := hpinpoints.line_le
        omega
      refine ⟨⟨_, List.getElem?_eq_getElem hline, ?_⟩, ?_, ?_⟩
      · exact shows_around hpinpoints.line_pos hreach (List.getElem?_eq_getElem hline)
      · exact codeContext_of_source hread hserved _ _ false
      · exact codeContext_of_source hread hserved _ _ true
    · intro a b ha hb heq
      exact ofOffset_injective ha hb heq
    · intro message hmessage
      rw [lintFile, hread] at hmessage
      exact position_of_mem hmessage
  · next hbinary =>
    have hnone : m.readSource? (resolvePath root path) = none := by
      rw [FileMap.readSource?, hread, Option.filter_some, if_neg hbinary]
    refine ⟨?_, ?_⟩
    · intro target reach numbered
      exact codeContext_of_none hnone limit target reach numbered
    · rw [lintFile, hnone]

/-- Two lines: one with a carriage return, and one with a separator that is no end of a line. -/
def separated : Bytes := encode "x\r\n'\u00E9\u2028';~~a"

/-- The complement stands in the second line, behind characters of two and of three bytes. -/
theorem served_as_reported_separated :
    let m : FileMap := ⟨[(["a.js"], separated)], []⟩
    exceeds (lineCount separated) (.int 2) = .ok false ∧
      ∃ lines, servedLines separated (.int 2) = .ok lines ∧ lines.length = 2 ∧
        Pinpoints lines ⟨2, 6⟩ (separated.take 11) ∧ Serves m "." (.int 2) "a.js" lines 2 5 ∧
        ∃ message ∈ (lintFile scriptLinter m (resolvePath "." "a.js")).messages,
          message.start = 11 ∧ message.position = ⟨2, 6⟩ := by
  intro m
  have hcount : lineCount separated = 2 := by decide +kernel
  have hlimit : exceeds (lineCount separated) (.int 2) = .ok false := by rw [hcount]; rfl
  have hread : m.read? (resolvePath "." "a.js") = some separated := by decide +kernel
  have hserved := served_as_reported scriptLinter m "." "a.js" hread (by decide +kernel) hlimit
  have hsource : isSource separated = true := by decide +kernel
  rw [if_pos hsource, hcount] at hserved
  obtain ⟨lines, hlines, -, hlength, hplaces, -, hmessages⟩ := hserved
  have hposition : Position.ofOffset separated (11 : Nat) = ⟨2, 6⟩ := by decide +kernel
  obtain ⟨hpinpoints, hserves⟩ := hplaces 11 (by decide +kernel) (by decide +kernel)
  rw [hposition] at hpinpoints hserves
  have hfirst : ((lintFile scriptLinter m (resolvePath "." "a.js")).messages.map (·.start)) =
      [11] := by decide +kernel
  obtain ⟨message, hmessage, hstart⟩ := List.mem_map.mp (hfirst ▸ List.mem_singleton_self 11)
  refine ⟨hlimit, lines, hlines, hlength, hpinpoints, hserves 5 (by decide), message, hmessage,
    hstart, ?_⟩
  rw [hmessages message hmessage, hstart, hposition]

/-- Of a text that is a single NUL no line is served. -/
theorem not_served_as_reported :
    let m : FileMap := ⟨[(["a.js"], [0])], []⟩
    m.read? (resolvePath "." "a.js") = some [0] ∧ encode (decode [0]) = [0] ∧
      exceeds (lineCount [0]) (.int 100000) = .ok false ∧
      codeContext m "." (.int 100000) "a.js" 1 0 false = .ok "Error: Cannot read a.js" ∧
      decode [0] ≠ "Error: Cannot read a.js" := by
  intro m
  refine ⟨by decide +kernel, by decide +kernel, rfl, ?_, by decide +kernel⟩
  have hnone : m.readSource? (resolvePath "." "a.js") = none := by decide +kernel
  rw [codeContext_of_none hnone]
  exact congrArg Except.ok (by decide +kernel)

end

end TruncIdiom.Workspace
