import TruncIdiom.Proofs.Lint.Exactness

/-!
What a rewrite makes of the source, byte by byte.

`RewrittenTo` writes the result down from the places of the tree alone: what stands around the node
is kept, the operand stands in the call as it was, and a blank stands where a keyword touches the
parentheses around the node. Of an assignment the zero may stand on either side of the operator, and
everything else stays in its place. `rewrites_of_carries` proves that the record a message carries,
be it a fix or a suggestion, has a span of the source and does just that.
-/

namespace TruncIdiom.Lint

open Text Syntax Rule

/-! ## The result -/

/-- The call over an operand. A sequence has parentheses of its own. -/
def callOver (source : Bytes) (operand : Location) : Bytes :=
  let bytes := between source operand.info.start operand.info.stop
  encode "Math.trunc(" ++
    (if operand.kind = "sequence_expression" then encode "(" ++ bytes ++ encode ")" else bytes) ++
    encode ")"

def blankBytes (p : Prop) [Decidable p] : Bytes := if p then encode " " else []

/-- The source with a node replaced. The blanks stand outside the parentheses around the node. -/
def replacedIn (source : Bytes) (l : Location) (bytes : Bytes) : Bytes :=
  let outer := l.outermost
  source.take outer.info.start ++ blankBytes (KeywordBefore outer) ++
    between source outer.info.start l.info.start ++ bytes ++
    between source l.info.stop outer.info.stop ++ blankBytes (KeywordAfter outer) ++
    source.drop outer.info.stop

/-- What the rewrite of an idiom makes of the source. -/
inductive RewrittenTo (source : Bytes) (l : Location) : Bytes → Prop
  | operation {left right : Location} (idiom : BitwiseZero source l left right)
      (operates : l.kind = "binary_expression") :
      RewrittenTo source l (replacedIn source l (callOver source left))
  | complement {inner target : Location} (idiom : DoubleComplement source l inner target) :
      RewrittenTo source l (replacedIn source l (callOver source target))
  | assignment {left right operator : Location} (idiom : BitwiseZero source l left right)
      (assigns : l.kind = "augmented_assignment_expression")
      (sign : l.childInField? "operator" = some operator)
      (order : operator.info.stop ≤ right.info.start) :
      RewrittenTo source l (source.take operator.info.start ++ encode "=" ++
        between source operator.info.stop right.info.start ++ callOver source left ++
        source.drop right.info.stop)
  | zeroFirst {left right operator : Location} (idiom : BitwiseZero source l left right)
      (assigns : l.kind = "augmented_assignment_expression")
      (sign : l.childInField? "operator" = some operator)
      (order : right.info.stop ≤ operator.info.start) :
      RewrittenTo source l (source.take right.info.start ++ callOver source left ++
        between source right.info.stop operator.info.start ++ encode "=" ++
        source.drop operator.info.stop)

/-- Whether a message carries a record, as its fix or as a suggestion. -/
def Carries (m : Message) (record : SpanEdit) : Prop :=
  m.fix = some record ∨ ∃ proposal ∈ m.suggestions, proposal.fix = record

/-! ## Scripts -/

section
variable {source : Bytes} {l : Location}

/-- Whether a node starts and ends between characters. -/
def AtBoundaries (source : Bytes) (info : NodeInfo) : Prop :=
  Boundary source info.start ∧ Boundary source info.stop

instance (source : Bytes) (info : NodeInfo) : Decidable (AtBoundaries source info) :=
  inferInstanceAs (Decidable (_ ∧ _))

/-- The record of a script whose edits lie between characters and of which one has a width. -/
theorem mergedRecord_spec {script : EditScript}
    (hedits : ∀ e ∈ script.edits, Boundary source e.start ∧ Boundary source e.stop)
    (hwide : ∃ e ∈ script.edits, e.start < e.stop) :
    0 ≤ (mergedRecord script source).start ∧
      (mergedRecord script source).start < (mergedRecord script source).stop ∧
      (mergedRecord script source).stop ≤ source.length ∧
      (mergedRecord script source).apply source = replaceAll source 0 script.edits := by
  obtain ⟨e, he, hlt⟩ := hwide
  obtain ⟨hstart, hstop⟩ := script.span_of_mem he
  have hin : script.stop ≤ source.length := script.stop_le fun e he => (hedits e he).2.le_length
  have hrecord : mergedRecord script source = (script.merged source).record := rfl
  refine ⟨?_, ?_, ?_, ?_⟩
  · exact Int.natCast_nonneg script.start
  · show (script.start : Int) < script.stop
    omega
  · exact Int.ofNat_le.mpr hin
  · rw [hrecord, Edit.record_apply]
    exact script.merged_apply (script.textBetween_of_boundary hedits)

theorem encode_truncCall {ctx : CheckContext} {operand : Location}
    (hoperand : AtBoundaries ctx.source operand.info)
    (hle : operand.info.start ≤ operand.info.stop) :
    encode (truncCall ctx operand) = callOver ctx.source operand := by
  have htext : encode (ctx.text operand) =
      between ctx.source operand.info.start operand.info.stop :=
    encode_decode_between hoperand.1 hoperand.2 hle
  simp only [truncCall, callOver, encode_append]
  split
  · simp only [encode_append, htext]
  · rw [htext]

theorem replaceAll_blankIf (p : Prop) [Decidable p] {cursor offset : Nat} {es : List Edit}
    (h : cursor ≤ offset) (hes : overlapAfter offset es = none) :
    replaceAll source cursor (blankIf p offset ++ es) =
      between source cursor offset ++ blankBytes p ++ replaceAll source offset es := by
  unfold blankIf blankBytes
  split
  · rfl
  · rw [List.nil_append, List.append_nil, replaceAll_from h hes]

theorem replaceAll_rewriteEdits (hl : l.whole.Nested) (text : String) :
    replaceAll source 0 (rewriteEdits l text (Location.start_le_stop hl)) =
      replacedIn source l (encode text) := by
  obtain ⟨hstart, hstop⟩ := Location.inside_outermost hl
  have hafter : replaceAll source l.info.stop
      (blankIf (KeywordAfter l.outermost) l.outermost.info.stop ++ []) = _ :=
    replaceAll_blankIf _ hstop rfl
  rw [List.append_nil] at hafter
  have hdisjoint : overlapAfter l.outermost.info.start
      (nodeEdit l.info text (Location.start_le_stop hl) ::
        blankIf (KeywordAfter l.outermost) l.outermost.info.stop) = none := by
    unfold blankIf
    split <;> simp [nodeEdit, hstart, hstop]
  -- The blank in front, the replacement, the blank behind, each with the source up to it.
  rw [rewriteEdits, replaceAll_blankIf _ (Nat.zero_le _) hdisjoint, between_zero, replacedIn]
  simp only [replaceAll, nodeEdit]
  rw [hafter]
  simp only [replaceAll, List.append_assoc]

theorem replaceAll_assignmentEdits {operator value : NodeInfo} (text : String)
    (hoperator : operator.start < operator.stop) (hvalue : value.start < value.stop)
    (hapart : operator.stop ≤ value.start ∨ value.stop ≤ operator.start) :
    (operator.stop ≤ value.start ∧
      replaceAll source 0 (assignmentEdits operator value text (Nat.le_of_lt hoperator)
          (Nat.le_of_lt hvalue)) =
        source.take operator.start ++ encode "=" ++ between source operator.stop value.start ++
          encode text ++ source.drop value.stop) ∨
      (value.stop ≤ operator.start ∧
        replaceAll source 0 (assignmentEdits operator value text (Nat.le_of_lt hoperator)
            (Nat.le_of_lt hvalue)) =
          source.take value.start ++ encode text ++ between source value.stop operator.start ++
            encode "=" ++ source.drop operator.stop) := by
  unfold assignmentEdits
  rcases hapart with h | h
  · left
    rw [if_pos (by omega)]
    refine ⟨h, ?_⟩
    simp only [replaceAll, nodeEdit, between_zero, List.append_assoc]
  · right
    rw [if_neg (by omega)]
    refine ⟨h, ?_⟩
    simp only [replaceAll, nodeEdit, between_zero, List.append_assoc]

end

/-! ## Messages -/

/-- What a record does to the source when it rewrites an idiom. -/
structure Rewrites (source : Bytes) (l : Location) (record : SpanEdit) : Prop where
  nonneg : 0 ≤ record.start
  wide : record.start < record.stop
  inside : record.stop ≤ source.length
  result : RewrittenTo source l (record.apply source)

section
variable {ctx : CheckContext} {l : Location} {d : Diagnostic}

theorem rewrites_of_rewriteEdits {operand : Location} {script : EditScript} (hl : l.whole.Nested)
    (hidiom : Idiom ctx.source l)
    (hboundary : ∀ p : Location, p.whole = l.whole → AtBoundaries ctx.source p.info)
    (hoperand : operand.whole = l.whole)
    (hedits : script.edits = rewriteEdits l (truncCall ctx operand) (Location.start_le_stop hl))
    (hresult : RewrittenTo ctx.source l (replacedIn ctx.source l (callOver ctx.source operand))) :
    Rewrites ctx.source l (mergedRecord script ctx.source) := by
  have hwidth := Location.start_lt_stop_of_operatorText hl hidiom.operatorText_ne_empty
  have hself := hboundary l rfl
  have houter := hboundary l.outermost l.whole_outermost
  have hspans : ∀ e ∈ script.edits, Boundary ctx.source e.start ∧ Boundary ctx.source e.stop := by
    intro e he
    rw [hedits, rewriteEdits, List.mem_append, List.mem_cons] at he
    rcases he with he | rfl | he
    · obtain ⟨hstart, hstop⟩ := span_of_mem_blankIf he
      rw [hstart, hstop]
      exact ⟨houter.1, houter.1⟩
    · exact hself
    · obtain ⟨hstart, hstop⟩ := span_of_mem_blankIf he
      rw [hstart, hstop]
      exact ⟨houter.2, houter.2⟩
  have hwide : ∃ e ∈ script.edits, e.start < e.stop := by
    rw [hedits]
    exact ⟨nodeEdit l.info _ _, List.mem_append_right _ List.mem_cons_self, hwidth⟩
  obtain ⟨hnonneg, hlt, hin, happly⟩ := mergedRecord_spec hspans hwide
  refine ⟨hnonneg, hlt, hin, ?_⟩
  have hle : operand.info.start ≤ operand.info.stop := Location.start_le_stop (hoperand ▸ hl)
  rw [happly, hedits, replaceAll_rewriteEdits hl, encode_truncCall (hboundary _ hoperand) hle]
  exact hresult

theorem rewrites_of_assignmentEdits {left right operator : Location} {script : EditScript}
    (hl : l.whole.Nested) (idiom : BitwiseZero ctx.source l left right)
    (assigns : l.kind = compoundAssignment)
    (hboundary : ∀ p : Location, p.whole = l.whole → AtBoundaries ctx.source p.info)
    (sign : l.childInField? "operator" = some operator)
    (wideSign : operator.info.start < operator.info.stop)
    (wideZero : right.info.start < right.info.stop)
    (apart : operator.info.stop ≤ right.info.start ∨ right.info.stop ≤ operator.info.start)
    (hedits : script.edits = assignmentEdits operator.info right.info (truncCall ctx left)
      (Nat.le_of_lt wideSign) (Nat.le_of_lt wideZero)) :
    Rewrites ctx.source l (mergedRecord script ctx.source) := by
  have hleft := Location.whole_of_operand? idiom.onLeft
  have hsign := hboundary operator (whole_of_mem_children (Location.of_childInField? sign).1)
  have hzero := hboundary right (Location.whole_of_operand? idiom.onRight)
  have hspans : ∀ e ∈ script.edits, Boundary ctx.source e.start ∧ Boundary ctx.source e.stop := by
    intro e he
    rw [hedits, mem_assignmentEdits] at he
    rcases he with rfl | rfl
    · exact hsign
    · exact hzero
  have hwide : ∃ e ∈ script.edits, e.start < e.stop := by
    rw [hedits]
    exact ⟨_, mem_assignmentEdits.mpr (.inl rfl), wideSign⟩
  obtain ⟨hnonneg, hlt, hin, happly⟩ := mergedRecord_spec hspans hwide
  refine ⟨hnonneg, hlt, hin, ?_⟩
  have hle : left.info.start ≤ left.info.stop := Location.start_le_stop (hleft ▸ hl)
  rw [happly, hedits]
  rcases replaceAll_assignmentEdits (truncCall ctx left) wideSign wideZero apart with
    ⟨order, hresult⟩ | ⟨order, hresult⟩
  · rw [hresult, encode_truncCall (hboundary _ hleft) hle]
    exact .assignment idiom assigns sign order
  · rw [hresult, encode_truncCall (hboundary _ hleft) hle]
    exact .zeroFirst idiom assigns sign order

def scriptsOf : Remedy → List EditScript
  | .none => []
  | .fix script => [script]
  | .suggestions first rest => (first :: rest).map (·.fix)

theorem carries_message {info : RuleInfo} {source : Bytes} {level : Level} {record : SpanEdit} :
    Carries (d.message info source level) record ↔
      ∃ script ∈ scriptsOf d.remedy, mergedRecord script source = record := by
  obtain ⟨node, messageId, data, remedy⟩ := d
  cases remedy <;> simp [Carries, Diagnostic.message, scriptsOf, Suggestion.proposal]

theorem rewrites_of_reports {hl : l.whole.Nested} {script : EditScript} (h : Reports ctx l hl d)
    (hboundary : ∀ p : Location, p.whole = l.whole → AtBoundaries ctx.source p.info)
    (hscript : script ∈ scriptsOf d.remedy) :
    Rewrites ctx.source l (mergedRecord script ctx.source) := by
  cases h with
  | guarded idiom assigns effect => cases hscript
  | assigned idiom assigns pure sign wideSign wideZero apart hedits =>
    obtain rfl := List.mem_singleton.mp hscript
    exact rewrites_of_assignmentEdits hl idiom assigns hboundary sign wideSign wideZero apart hedits
  | suggested idiom operates bar hedits =>
    obtain rfl := List.mem_singleton.mp hscript
    exact rewrites_of_rewriteEdits hl (.zero idiom) hboundary
      (Location.whole_of_operand? idiom.onLeft) hedits (.operation idiom operates)
  | replaced idiom operates other hedits =>
    obtain rfl := List.mem_singleton.mp hscript
    exact rewrites_of_rewriteEdits hl (.zero idiom) hboundary
      (Location.whole_of_operand? idiom.onLeft) hedits (.operation idiom operates)
  | doubled idiom hedits =>
    obtain rfl := List.mem_singleton.mp hscript
    have htarget := (Location.whole_of_operand? idiom.operand).trans
      (Location.whole_of_operand? idiom.argument)
    exact rewrites_of_rewriteEdits hl (.complement idiom) hboundary htarget hedits
      (.complement idiom)

end

section
variable {linter : Linter} {source : Bytes} {m : Message}

theorem not_carries_faultMessage {node : NodeInfo} {record : SpanEdit} :
    ¬ Carries (faultMessage node source) record := by
  rintro (hfix | ⟨proposal, hmem, -⟩)
  · cases hfix
  · cases hmem

theorem exists_reports_of_mem_found (hrules : linter.rules = defaultRules) {tree : Tree}
    (hnested : tree.Nested) (h : m ∈ linter.found source tree) :
    ∃ l ∈ tree.places [], ∃ d, ∃ hl : l.whole.Nested,
      Reports (linter.context source) l hl d ∧
        m = d.message truncationInfo source linter.config.level := by
  rw [found_eq_flatMap hrules, List.mem_flatMap] at h
  obtain ⟨l, hplace, hm⟩ := h
  obtain ⟨d, hd, rfl⟩ := List.mem_map.mp hm
  have hl : l.whole.Nested := by rwa [mem_places_iff.mp hplace]
  exact ⟨l, hplace, d, hl, reports_of_mem_reportsAt hl hd, rfl⟩

end

/-- A message that carries a record is the message of an idiom of the tree, and the record rewrites
that idiom. -/
theorem rewrites_of_carries (linter : Linter) (source : Bytes) (path : String)
    (hrules : linter.rules = defaultRules) (hnested : (linter.parser source).Nested)
    (hboundary : ∀ p ∈ (linter.parser source).places [], AtBoundaries source p.info) :
    ∀ m ∈ (linter.lint source path).messages, ∀ record, Carries m record →
      ∃ l ∈ (linter.parser source).places [],
        Announces source linter.config l m ∧ Rewrites source l record := by
  intro m hm record hcarries
  rcases mem_messages hm with ⟨-, node, rfl⟩ | hfound
  · exact absurd hcarries not_carries_faultMessage
  · obtain ⟨l, hplace, d, hl, hreports, rfl⟩ :=
      exists_reports_of_mem_found hrules hnested hfound
    -- Every place of the tree that the idiom stands in is a place of the tree of the source.
    have hall : ∀ p : Location, p.whole = l.whole → AtBoundaries source p.info := by
      intro p hp
      exact hboundary p (mem_places_iff.mpr (hp.trans (mem_places_iff.mp hplace)))
    obtain ⟨script, hscript, rfl⟩ := carries_message.mp hcarries
    exact ⟨l, hplace, announces_of_reports hreports, rewrites_of_reports hreports hall hscript⟩

def betweenKeywords : Bytes := encode "void((a,b)>>0)in e"

/-- The blanks stand outside the parentheses, and the sequence keeps its own. -/
theorem rewrites_betweenKeywords :
    ∃ m record, (scriptLinter.lint betweenKeywords "f").messages = [m] ∧ m.fix = some record ∧
      record.apply betweenKeywords = encode "void (Math.trunc((a,b))) in e" ∧
      ∃ l ∈ (scriptLinter.parser betweenKeywords).places [],
        Announces betweenKeywords scriptLinter.config l m ∧ Rewrites betweenKeywords l record := by
  have hlint : (scriptLinter.lint betweenKeywords "f").messages.map
      (fun m => m.fix.map (·.apply betweenKeywords)) =
        [some (encode "void (Math.trunc((a,b))) in e")] := by decide +kernel
  obtain ⟨m, hm, hfix⟩ := List.map_eq_singleton_iff.mp hlint
  obtain ⟨record, hrecord, happly⟩ := Option.map_eq_some_iff.mp hfix
  exact ⟨m, record, hm, hrecord, happly,
    rewrites_of_carries scriptLinter betweenKeywords "f" rfl (by decide +kernel)
      (by decide +kernel) m (hm ▸ List.mem_singleton_self m) record (.inl hrecord)⟩

/-- An assignment whose zero stands in front of its operator, over `0|=a`. -/
def zeroFirstTree : Tree :=
  .node ⟨"program", 0, 4, true, false, none, false⟩ [
    .node ⟨"augmented_assignment_expression", 0, 4, true, false, none, false⟩ [
      .node ⟨"number", 0, 1, true, false, some "right", false⟩ [],
      .node ⟨"|=", 1, 3, false, false, some "operator", false⟩ [],
      .node ⟨"identifier", 3, 4, true, false, some "left", false⟩ []]]

/-- There the fix is no rewrite of an operator in front of its zero: read so, the source in front of
the operator would keep the zero and the source behind the zero the operator. -/
theorem zeroFirst_not_operator_first :
    zeroFirstTree.Nested ∧ zeroFirstTree.hasError = false ∧
      (∀ p ∈ zeroFirstTree.places [], AtBoundaries (encode "0|=a") p.info) ∧
      ∃ m record, (Linter.mk (fun _ => zeroFirstTree) defaultRules .default).messages
          (encode "0|=a") = [m] ∧
        m.fix = some record ∧ record.apply (encode "0|=a") = encode "Math.trunc(a)=a" ∧
        ∀ l ∈ zeroFirstTree.places [], ∀ operator ∈ l.childInField? "operator",
          ∀ left ∈ l.operand? "left", ∀ right ∈ l.operand? "right",
            record.apply (encode "0|=a") ≠
              (encode "0|=a").take operator.info.start ++ encode "=" ++
                between (encode "0|=a") operator.info.stop right.info.start ++
                callOver (encode "0|=a") left ++ (encode "0|=a").drop right.info.stop := by
  refine ⟨by decide, by decide, by decide +kernel, ?_⟩
  have hlint : ((Linter.mk (fun _ => zeroFirstTree) defaultRules .default).messages
      (encode "0|=a")).map (·.fix) = [some ⟨0, 3, "Math.trunc(a)="⟩] := by decide +kernel
  obtain ⟨m, hm, hfix⟩ := List.map_eq_singleton_iff.mp hlint
  exact ⟨m, _, hm, hfix, by decide +kernel, by decide +kernel⟩

end TruncIdiom.Lint
