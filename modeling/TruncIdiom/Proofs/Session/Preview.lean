import TruncIdiom.Proofs.Lint.RewrittenLines
import TruncIdiom.Proofs.Session.Outcome
import TruncIdiom.Proofs.Text.ScreenLines

/-!
What the preview of a proposal shows.

A proposal shows one line of the source with its edit applied, under the number that was reported.
That number counts lines up to a newline, and the line shown is counted on screen. `propose_preview`
says what this comes to: the line is the one reported as long as every line in front of it is
`Plain`, and part of a line further up otherwise. For a tree that covers its text there is always
such a line.
-/

namespace TruncIdiom.Session

open Text Syntax Rule Lint Workspace

variable {s : Session} {parser : Parser} {root : Root} {path : String} {line : Int}
  {found : Found} {edit : Edit} {content : Bytes}

/-! ## The source with the edit applied -/

def editedText (content : Bytes) (edit : Edit) : String := decode (applyBatch content [edit]).1

theorem applyBatch_single (content : Bytes) (edit : Edit) :
    (applyBatch content [edit]).1 =
      if edit.stop ≤ content.length then edit.apply content else content := by
  have hsorted : Collection.stableSort (fun a b => (Edit.span a).laterEq (Edit.span b)) [edit] =
      [edit] := rfl
  have htaken : takeFitting Edit.span content.length none [edit] =
      if content.length < edit.stop then [] else [edit] := by
    show (if (decide (content.length < edit.stop) || false) = true then [] else [edit]) = _
    rw [Bool.or_false]
    simp only [decide_eq_true_eq]
  rw [applyBatch, chosenFrom, hsorted, htaken]
  by_cases hfits : edit.stop ≤ content.length
  · rw [if_pos hfits, if_neg (by omega)]
    rfl
  · rw [if_neg hfits, if_pos (by omega)]
    rfl

theorem record_of_make {record : SpanEdit}
    (h : Edit.make record.start record.stop record.text = .ok edit) : edit.record = record := by
  unfold Edit.make at h
  split at h
  · next hspan =>
    obtain rfl := Except.ok.inj h
    have hstart : ((record.start.toNat : Nat) : Int) = record.start := Int.toNat_of_nonneg hspan.1
    have hstop : ((record.stop.toNat : Nat) : Int) = record.stop := by
      apply Int.toNat_of_nonneg
      omega
    simp only [Edit.record, hstart, hstop]
  · cases h

theorem carries_of_chosenRecord? {m : Message} {accept : Bool} {record : SpanEdit}
    (h : chosenRecord? m accept = some record) : Carries m record := by
  unfold chosenRecord? at h
  split at h
  · next fix hfix => exact .inl (hfix.trans h)
  · split at h
    · obtain ⟨proposal, hproposal, hfix⟩ := Option.map_eq_some_iff.mp h
      exact .inr ⟨proposal, List.mem_of_mem_head? hproposal, hfix⟩
    · cases h

theorem carries_of_chosenEdit? {m : Message} {accept : Bool}
    (h : chosenEdit? m accept = some edit) : Carries m edit.record := by
  obtain ⟨record, hrecord, hmake⟩ := Option.bind_eq_some_iff.mp h
  have hedit : Edit.make record.start record.stop record.text = .ok edit := by
    cases hmade : Edit.make record.start record.stop record.text with
    | ok made =>
      rw [hmade] at hmake
      exact congrArg Except.ok (Option.some.inj hmake)
    | error e =>
      rw [hmade] at hmake
      cases hmake
  rw [record_of_make hedit]
  exact carries_of_chosenRecord? hrecord

/-- In a tree over a text the edit of a diagnostic lies within the source, and the line of the
diagnostic is a line of the result. -/
theorem line_le_length_editedText (hfound : s.find parser root path line = .ok found)
    (hedit : chosenEdit? found.message true = some edit)
    (hcontent : s.files.readSource? (root.resolve path) = some content)
    (hnested : (parser content).Nested)
    (hboundary : ∀ p ∈ (parser content).places [], AtBoundaries content p.info) :
    edit.stop ≤ content.length ∧
      found.message.position.line ≤ (linesOf (editedText content edit)).length := by
  obtain ⟨content', hcontent', hmem, hfatal⟩ := of_find hfound
  obtain rfl : content' = content := Option.some.inj (hcontent'.symm.trans hcontent)
  have hcarries := carries_of_chosenEdit? hedit
  rcases mem_messages hmem with ⟨-, node, hnode⟩ | hreported
  · rw [hnode] at hcarries
    exact absurd hcarries not_carries_faultMessage
  obtain ⟨l, hplace, d, hl, hreports, hmessage⟩ :=
    exists_reports_of_mem_found rfl hnested hreported
  have hall : ∀ p : Location, p.whole = l.whole → AtBoundaries content' p.info := by
    intro p hp
    exact hboundary p (mem_places_iff.mpr (hp.trans (mem_places_iff.mp hplace)))
  rw [hmessage, carries_message] at hcarries
  obtain ⟨script, hscript, hrecord⟩ := hcarries
  have hrewrites : Rewrites content' l (mergedRecord script content') :=
    rewrites_of_reports hreports hall hscript
  rw [hrecord] at hrewrites
  have hfits : edit.stop ≤ content'.length := Int.ofNat_le.mp hrewrites.inside
  have hresult := hrewrites.result
  rw [Edit.record_apply] at hresult
  obtain ⟨text, htext⟩ := hresult.exists_text hl hall
  have hline := hresult.line_le hl
  refine ⟨hfits, ?_⟩
  rw [editedText, applyBatch_single, if_pos hfits, hmessage]
  rw [htext] at hline ⊢
  rw [decode_encode, length_linesOf]
  show (Position.ofOffset content' d.node.start).line ≤ lineCount (encode text)
  rw [node_of_reports hreports]
  exact hline

/-! ## The proposal -/

/-- What is shown under a number of a source with an edit applied. -/
structure Previews (content : Bytes) (edit : Edit) (number : Nat) : Prop where
  applied : edit.stop ≤ content.length → editedText content edit = decode (edit.apply content)
  onScreen : ∀ shown, previewLine? content edit number = some shown →
    OnScreen (editedText content edit) number shown
  plain : (∀ line ∈ (linesOf (editedText content edit)).take number, Plain line.toList) →
    previewLine? content edit number =
      (linesOf (editedText content edit))[number - 1]?.map withoutLineEnd
  present : number ≤ (linesOf (editedText content edit)).length →
    (previewLine? content edit number).isSome = true

theorem previews_of_line (content : Bytes) (edit : Edit) {number : Nat} (hnumber : 1 ≤ number) :
    Previews content edit number := by
  have hshown : previewLine? content edit number =
      (screenLines (editedText content edit))[number - 1]? := by
    rw [previewLine?, if_neg (by omega)]
    rfl
  refine ⟨?_, ?_, ?_, ?_⟩
  · intro hfits
    rw [editedText, applyBatch_single, if_pos hfits]
  · intro shown h
    rw [hshown] at h
    exact onScreen_of_getElem? hnumber h
  · intro hplain
    rw [hshown]
    exact screenLines_getElem?_of_plain hnumber hplain
  · intro hle
    have hlength := length_linesOf_le_screenLines (editedText content edit)
    rw [hshown, List.getElem?_eq_getElem (by omega)]
    rfl

/-- What a proposal says in front of the preview. -/
def proposalOpening (found : Found) (context : String) (edit : Edit) : String :=
  found.note ++ proposalHeading found.message ++ "#### Context\n```js\n" ++
    withoutNewlines context ++ "\n```\n\n" ++ offerText found.message edit

/-- The proposal for a diagnostic with an edit ends with a preview of the source after that edit.
It shows the line of the diagnostic without its end if that line and those in front of it are plain;
it shows a part of a line further up just when a line in front of it is not. Of a tree over a text
there is a line to show. -/
theorem propose_preview (hroot : s.root = some root)
    (hfound : s.find parser root path line = .ok found)
    (hedit : chosenEdit? found.message true = some edit) :
    ∃ content, s.files.readSource? (root.resolve path) = some content ∧
      (s.propose parser path line = s.after
        (codeContext s.files root.path root.maxLines path found.message.position.line shownReach
          true)
        fun context => s.say (proposalOpening found context edit ++
          previewText content edit found.message.position.line)) ∧
      Previews content edit found.message.position.line ∧
      ((parser content).Nested →
        (∀ p ∈ (parser content).places [], AtBoundaries content p.info) →
        edit.stop ≤ content.length ∧
          found.message.position.line ≤ (linesOf (editedText content edit)).length) := by
  obtain ⟨content, hcontent, hmem, -⟩ := of_find hfound
  have hnumber : 1 ≤ found.message.position.line := by
    rw [position_of_mem hmem]
    exact Nat.succ_pos _
  refine ⟨content, hcontent, ?_, previews_of_line content edit hnumber, ?_⟩
  · rw [propose, withRoot, hroot]
    simp only [hfound, proposal, hedit, hcontent, Option.getD_some]
    rfl
  · exact line_le_length_editedText hfound hedit hcontent

/-- A complement on the second line, behind a form feed on the first. -/
def formFeed : Bytes := encode "\x0C;\n~~a"

/-- The form feed bounds a line on screen, so the preview shows the rest of the first line and not
the call. -/
theorem propose_preview_formFeed :
    let s : Session := { files := ⟨[(["a.js"], formFeed)], []⟩, root := some ⟨".", .int 100⟩ }
    ∃ found edit opening, s.find Script.parse ⟨".", .int 100⟩ "a.js" 2 = .ok found ∧
      found.message.position.line = 2 ∧ chosenEdit? found.message true = some edit ∧
      (s.propose Script.parse "a.js" 2).1 = .ok (opening ++ "#### Preview\n```js\n;\n```\n") ∧
      (linesOf (editedText formFeed edit))[1]? = some "Math.trunc(a)" ∧
      OnScreen (editedText formFeed edit) 2 ";" := by
  intro s
  have hanswer : (s.find Script.parse ⟨".", .int 100⟩ "a.js" 2).toOption.map
      (fun found => (found.message.position.line, chosenEdit? found.message true)) =
        some (2, some ⟨3, 6, "Math.trunc(a)", by decide⟩) := by decide +kernel
  have hsource : s.files.readSource? ((Root.mk "." (.int 100)).resolve "a.js") = some formFeed := by
    decide +kernel
  cases hfound : s.find Script.parse ⟨".", .int 100⟩ "a.js" 2 with
  | error reason =>
    rw [hfound] at hanswer
    cases hanswer
  | ok found =>
    rw [hfound] at hanswer
    have hnumber : found.message.position.line = 2 :=
      congrArg Prod.fst (Option.some.inj hanswer)
    have hedit : chosenEdit? found.message true = some ⟨3, 6, "Math.trunc(a)", by decide⟩ :=
      congrArg Prod.snd (Option.some.inj hanswer)
    obtain ⟨content, hcontent, hpropose, hpreviews, -⟩ := propose_preview rfl hfound hedit
    obtain rfl : content = formFeed := Option.some.inj (hcontent.symm.trans hsource)
    rw [hnumber] at hpropose hpreviews
    have hshown : previewText formFeed ⟨3, 6, "Math.trunc(a)", by decide⟩ 2 =
        "#### Preview\n```js\n;\n```\n" := by decide +kernel
    have hserved : (codeContext s.files "." (.int 100) "a.js" 2 shownReach true).toOption.isSome =
        true := by decide +kernel
    cases hcontext : codeContext s.files "." (.int 100) "a.js" 2 shownReach true with
    | error e =>
      rw [hcontext] at hserved
      cases hserved
    | ok context =>
      refine ⟨found, _, proposalOpening found context ⟨3, 6, "Math.trunc(a)", by decide⟩, rfl,
        hnumber, hedit, ?_, by decide +kernel, hpreviews.onScreen ";" (by decide +kernel)⟩
      rw [hpropose, ← hshown]
      show (s.after (codeContext s.files "." (.int 100) "a.js" 2 shownReach true) _).1 = _
      rw [hcontext]
      rfl

end TruncIdiom.Session
