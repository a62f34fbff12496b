import Dialects.Proofs.FenceCount
import Dialects.Proofs.ScanRuns

/-!
# Blocks that are written are read back

Each block that a scan closes is written as a fenced block. With no fence in the text none is
written anywhere else, as no rule for a line makes one. So cutting the Markdown at its fenced blocks
finds just these, however the prose between them looks (`Scrapbox.readsAs_toMarkdown`).
-/

namespace Dialects

namespace CodeBlock

/-- The fenced blocks of the text are these, and no fence is left in its prose. -/
def ReadsAs (s : Text) (blocks : List CodeBlock) : Prop :=
  (markdown.split s).found.map (·.1) = blocks
    ∧ ∀ stretch ∈ (markdown.split s).stretches, ¬ fence <:+: stretch

theorem readsAs_nil {s : Text} (h : ¬ fence <:+: s) : ReadsAs s [] := by
  rw [ReadsAs, split_of_no_fence h]
  exact ⟨rfl, by simpa [Split.stretches] using h⟩

theorem ReadsAs.cons {prose rest : Text} {b : CodeBlock} {blocks : List CodeBlock}
    (h : ReadsAs rest blocks) (hp : ¬ fence <:+: prose) (hb : b.IsFenceable) :
    ReadsAs (prose ++ (b.toMarkdown ++ rest)) (b :: blocks) := by
  obtain ⟨hfound, hstretches⟩ := h
  rw [ReadsAs, split_block hp hb]
  refine ⟨congrArg (b :: ·) hfound, fun stretch hmem => ?_⟩
  rcases List.mem_cons.1 hmem with rfl | hmem
  · exact hp
  · exact hstretches stretch hmem

theorem trimRight_append_toMarkdown (prose : Text) (b : CodeBlock) (rest : Text) :
    Text.trimRight (prose ++ (b.toMarkdown ++ rest))
      = prose ++ (b.toMarkdown ++ Text.trimRight rest) := by
  have hlast : ∀ c ∈ (prose ++ b.toMarkdown).getLast?, isBlank c = false := by
    intro c hc
    rw [List.getLast?_append, getLast?_toMarkdown, Option.some_or, Option.mem_some_iff] at hc
    subst hc
    decide
  rw [← List.append_assoc, Text.trimRight_append_of_getLast? hlast, List.append_assoc]

end CodeBlock

namespace Scrapbox

open CodeBlock

/-- The lines of the part hold no fence. -/
def Part.IsFenceFree : Part → Prop
  | .prose line => ¬ fence <:+: line
  | .block _ _ body => ∀ line ∈ body, ¬ fence <:+: line

theorem Part.isFenceFree_of_mem_ofLines (default : Text) (number : Nat) {lines : List Text}
    (h : ∀ line ∈ lines, ¬ fence <:+: line) :
    ∀ part ∈ Part.ofLines default number lines, part.IsFenceFree := by
  induction number, lines using Part.ofLines.induct with
  | case1 number => simp
  | case2 number line rest hnone ih =>
    rw [Part.ofLines_cons_of_none default number rest hnone]
    rw [List.forall_mem_cons] at h ⊢
    exact ⟨h.1, ih h.2⟩
  | case3 number line rest name hname ih =>
    rw [Part.ofLines_cons_of_header default number rest hname]
    rw [List.forall_mem_cons] at h ⊢
    refine ⟨fun code hcode hfence => ?_, ih fun line hline => ?_⟩
    · obtain ⟨line, hline, rfl⟩ := List.mem_map.1 hcode
      exact h.2 line (List.takeWhile_subset _ hline)
        (hfence.trans (List.drop_suffix 1 line).isInfix)
    · exact h.2 line ((List.dropWhile_sublist _).subset hline)

theorem isFenceable_block {language : Text} {body : List Text}
    (hword : ∀ c ∈ language, isWord c = true) (hcode : ∃ line ∈ body, line.isBlank = false)
    (hfence : ∀ line ∈ body, ¬ fence <:+: line) :
    CodeBlock.IsFenceable ⟨language, Part.code body⟩ := by
  refine ⟨hword, fun hnil => ?_, fun hclose => ?_⟩
  · obtain ⟨line, hline, hblank⟩ := hcode
    rw [Part.code, Text.trimRight_eq_nil_iff, Text.isBlank_ofLines, List.all_eq_true] at hnil
    rw [hnil line hline] at hblank
    cases hblank
  · have hin : fence <:+: Text.ofLines body :=
      (List.suffix_cons _ fence).isInfix.trans (hclose.trans
        ((List.tail_suffix _).isInfix.trans (Text.trimRight_prefix _).isInfix))
    obtain ⟨line, hline, hin⟩ := fence_infix_ofLines.1 hin
    exact hfence line hline hin

/-- Lines of prose and the parts behind them: a line joins the lines before it, and a block ends
them. -/
theorem readsAs_ofLines : ∀ {parts : List Part}, (∀ part ∈ parts, part.IsFenceFree) →
    (∀ st ∈ parts.filterMap Part.state?,
      (∀ c ∈ st.language, isWord c = true) ∧ ∃ line ∈ st.body, line.isBlank = false) →
    ∀ lines : List Text, (∀ line ∈ lines, ¬ fence <:+: line) →
      ReadsAs (Text.ofLines (lines ++ parts.flatMap Part.markdownLines)).trimRight
        ((parts.filterMap Part.state?).map State.block)
  | [], _, _, lines, hlines => by
    refine readsAs_nil fun hfence => ?_
    rw [List.flatMap_nil, List.append_nil] at hfence
    obtain ⟨line, hline, hin⟩ :=
      fence_infix_ofLines.1 (hfence.trans (Text.trimRight_prefix _).isInfix)
    exact hlines line hline hin
  | .prose line :: parts, hfree, hblocks, lines, hlines => by
    rw [List.forall_mem_cons] at hfree
    have hlines' : ∀ l ∈ lines ++ [convertLine line], ¬ fence <:+: l := by
      intro l hl
      rcases List.mem_append.1 hl with hl | hl
      · exact hlines l hl
      · rw [List.mem_singleton.1 hl]
        exact (sameFences_convertLine line).no_fence hfree.1
    have ih := readsAs_ofLines hfree.2 hblocks _ hlines'
    rw [List.append_assoc] at ih
    exact ih
  | .block number language body :: parts, hfree, hblocks, lines, hlines => by
    rw [List.forall_mem_cons] at hfree
    have hstates : (Part.block number language body :: parts).filterMap Part.state?
        = ⟨.insideCodeBlock, language, body⟩ :: parts.filterMap Part.state? := rfl
    rw [hstates, List.forall_mem_cons] at hblocks
    obtain ⟨⟨hword, hcode⟩, hblocks⟩ := hblocks
    have hb := isFenceable_block hword hcode hfree.1
    -- the line feed behind the closing fence starts the rest, as an empty line does
    have ih := readsAs_ofLines hfree.2 hblocks [[]] (by simp [fence])
    have hprose : ¬ fence <:+: Text.ofLines (lines ++ [[]]) := by
      intro hfence
      obtain ⟨line, hline, hin⟩ := fence_infix_ofLines.1 hfence
      rcases List.mem_append.1 hline with hline | hline
      · exact hlines line hline hin
      · rw [List.mem_singleton.1 hline] at hin
        simp [fence] at hin
    have hne : Part.markdownLines (.block number language body) ++ parts.flatMap Part.markdownLines
        ≠ [] := by
      simp [Part.markdownLines]
    rw [hstates, List.flatMap_cons, Text.ofLines_append_of_ne_nil lines hne,
      Part.markdownLines_block, ofLines_markdownLines_append hb.body_ne_nil,
      trimRight_append_toMarkdown]
    exact ih.cons hprose hb

/-- The code blocks of a Scrapbox text without a fence come out as the fenced blocks of its
Markdown, with the languages and the code that the scan found, if each names a language in word
characters and holds more than blanks. Nothing else there is a fence, so no warning is given on the
way back. -/
theorem readsAs_toMarkdown {default s : Text} (hs : ¬ fence <:+: s)
    (hblocks : ∀ st ∈ closed default {} s.lines,
      (∀ c ∈ st.language, isWord c = true) ∧ ∃ line ∈ st.body, line.isBlank = false) :
    (markdown.split (toMarkdown default s).text).found.map (·.1)
        = (closed default {} s.lines).map State.block
      ∧ (∀ stretch ∈ (markdown.split (toMarkdown default s).text).stretches,
          ¬ fence <:+: stretch)
      ∧ ∀ default', (Markdown.toScrapbox default' (toMarkdown default s).text).warnings = [] := by
  have hlines : ∀ line ∈ s.lines, ¬ fence <:+: line := by
    intro line hline hfence
    have hin := fence_infix_ofLines.2 ⟨line, hline, hfence⟩
    rw [Text.ofLines_lines] at hin
    exact hs hin
  have hfree := Part.isFenceFree_of_mem_ofLines default 1 hlines
  rw [closed_eq default 1] at hblocks ⊢
  obtain ⟨hfound, hstretches⟩ := readsAs_ofLines hfree hblocks [] (by simp)
  rw [List.nil_append] at hfound hstretches
  have htext : (toMarkdown default s).text
      = (Text.ofLines ((Part.ofLines default 1 s.lines).flatMap Part.markdownLines)).trimRight := by
    rw [toMarkdown, output_eq_ofParts]
    rfl
  rw [← htext] at hfound hstretches
  refine ⟨hfound, hstretches, fun default' => ?_⟩
  rw [Markdown.toScrapbox, Markdown.fenceWarnings, fenceCount_eq_zero_iff.2 hstretches]
  rfl

/-- Links and bold text next to backticks, and a block that names no language and has blank lines at
either end. -/
theorem readsAs_toMarkdown_blank_lines :
    (¬ fence <:+: "``[c]\ncode:\n\n  x\n \n- d".toList)
      ∧ closed usualLanguage {} (Text.lines "``[c]\ncode:\n\n  x\n \n- d".toList)
          = [⟨.insideCodeBlock, usualLanguage, [[], [' ', 'x'], []]⟩]
      ∧ (markdown.split (toMarkdown usualLanguage
            "``[c]\ncode:\n\n  x\n \n- d".toList).text).found.map (·.1)
          = [⟨usualLanguage, ['\n', ' ', 'x']⟩] := by
  have hs : ¬ fence <:+: "``[c]\ncode:\n\n  x\n \n- d".toList := by decide +kernel
  have hclosed : closed usualLanguage {} (Text.lines "``[c]\ncode:\n\n  x\n \n- d".toList)
      = [⟨.insideCodeBlock, usualLanguage, [[], [' ', 'x'], []]⟩] := by
    have hlines : Text.lines "``[c]\ncode:\n\n  x\n \n- d".toList
        = ["``[c]".toList, header ++ [], [], [' ', ' ', 'x'], [' '], "- d".toList] := by
      decide +kernel
    have hrest : [[], [' ', ' ', 'x'], [' '], "- d".toList].dropWhile continuesBlock
        = ["- d".toList] := by decide +kernel
    rw [hlines, closed_eq usualLanguage 1, Part.ofLines_cons_of_none _ _ _ (by decide +kernel),
      Part.ofLines_cons_of_header _ _ _ (Text.after?_append header []), hrest,
      Part.ofLines_cons_of_none _ _ _ (by decide +kernel), Part.ofLines_nil]
    decide +kernel
  have hread := (readsAs_toMarkdown hs (by rw [hclosed]; decide +kernel)).1
  refine ⟨hs, hclosed, hread.trans ?_⟩
  rw [hclosed]
  decide +kernel

end Scrapbox

end Dialects
