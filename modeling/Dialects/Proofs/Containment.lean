import Dialects.Proofs.Opacity
import Dialects.Proofs.ScanRuns
import Dialects.Proofs.Tokenization

/-!
# Code stays in its block

No rule for prose takes away the line feed that the prose ends in, so a block whose fences start and
end lines in Markdown has lines of its own in Scrapbox, the header first. The header opens a block
in a scan, whatever the prose before it has left open, and the code is what the block starts with
(`Markdown.run_toScrapbox_block`).
-/

namespace Dialects

namespace Text

/-- Behind a text that is empty or ends in a line feed, another starts on a line of its own. -/
theorem exists_lines_append_left {s : Text} (h : ∀ c ∈ s.getLast?, c = '\n') :
    ∃ before, ofLines (before ++ [[]]) = s ∧ ∀ t, (s ++ t).lines = before ++ t.lines := by
  rcases List.eq_nil_or_concat s with rfl | ⟨s, c, rfl⟩
  · exact ⟨[], rfl, fun t => rfl⟩
  · obtain rfl := h c (by simp)
    refine ⟨lines s, ?_, fun t => ?_⟩
    · rw [ofLines_append (lines_ne_nil s) (by simp), ofLines_lines]
      simp
    · rw [List.concat_append, lines_append_newline]

theorem exists_lines_append_right {t : Text} (h : ∀ c ∈ t.head?, c = '\n') :
    ∃ after, ∀ s : Text, (s ++ t).lines = s.lines ++ after := by
  cases t with
  | nil => exact ⟨[], fun s => by rw [List.append_nil, List.append_nil]⟩
  | cons c t =>
    obtain rfl := h c (by simp)
    exact ⟨lines t, fun s => lines_append_newline s t⟩

end Text

namespace Pattern

/-- A character that no occurrence ends in stays at the end. -/
theorem ReadsBack.getLast?_replace {α : Type} {p : Pattern α} {read write : α → Text}
    (hp : p.ReadsBack read) {c d : Char} (hread : ∀ a, (read a).getLast? = some d) (hd : d ≠ c)
    {s : Text} (hs : s.getLast? = some c) : (p.replace write s).getLast? = some c := by
  induction s using Pattern.split_induction p with
  | nil => simp at hs
  | read e s a rest hr ih =>
    have hrest : rest.getLast? = some c := by
      rw [hp hr, List.getLast?_append, hread] at hs
      cases hlast : rest.getLast? with
      | none =>
        rw [hlast, Option.none_or, Option.some.injEq] at hs
        exact absurd hs hd
      | some e => rwa [hlast, Option.some_or] at hs
    rw [replace_of_read? hr, List.getLast?_append, ih hrest, Option.some_or]
  | other e s hr ih =>
    rw [replace_of_none hr]
    cases s with
    | nil => simpa using hs
    | cons e' s =>
      rw [List.getLast?_cons_cons] at hs
      rw [← List.singleton_append, List.getLast?_append, ih hs, Option.some_or]

end Pattern

namespace Markdown

open CodeBlock

theorem getLast?_allToScrapbox {s : Text} (hs : s.getLast? = some '\n') :
    (InlineRule.allToScrapbox s).getLast? = some '\n' := by
  have hlink : ∀ l : Link, l.toMarkdown.getLast? = some ')' := fun l => List.getLast?_concat
  have hbold : ∀ t, (Bold.toMarkdown t).getLast? = some '*' := by
    intro t
    rw [Bold.toMarkdown, List.getLast?_append]
    rfl
  exact Bold.markdown_readsBack.getLast?_replace hbold (by decide)
    (Link.markdown_readsBack.getLast?_replace hlink (by decide) hs)

theorem getLast?_convertProse (afterCode : Bool) {s : Text} (hs : s.getLast? = some '\n') :
    (convertProse afterCode s).getLast? = some '\n' := by
  have hempty : structureLines [] = [] := by
    rw [structureLines, Text.lines_nil]
    rfl
  obtain ⟨u, hu⟩ := List.getLast?_eq_some_iff.1 (getLast?_allToScrapbox hs)
  cases afterCode with
  | false =>
    rw [convertProse_false, hu, structureLines_append_newline, hempty, List.getLast?_concat]
  | true =>
    rw [convertProse_true, hu, structureLaterLines_append_newline, hempty, List.getLast?_concat]

/-- A text that is cut at its blocks, in Scrapbox. -/
def render (default : Text) (afterCode : Bool) (t : Split CodeBlock) : Text :=
  convertProse afterCode t.lead
    ++ t.found.flatMap fun (block, prose) => block.toScrapbox default ++ convertProse true prose

theorem render_append (default : Text) (afterCode : Bool) (lead : Text)
    (front : List (CodeBlock × Text)) (b : CodeBlock) (stretch : Text)
    (behind : List (CodeBlock × Text)) :
    render default afterCode ⟨lead, front ++ (b, stretch) :: behind⟩
      = render default afterCode ⟨lead, front⟩
        ++ (b.toScrapbox default ++ render default true ⟨stretch, behind⟩) := by
  simp only [render, List.flatMap_append, List.flatMap_cons, List.append_assoc]

/-- A text that is empty or ends in a line feed does so in Scrapbox. -/
theorem getLast?_render {lead : Text} {front : List (CodeBlock × Text)}
    (h : ∀ c ∈ (Split.join CodeBlock.toMarkdown ⟨lead, front⟩).getLast?, c = '\n')
    (default : Text) (afterCode : Bool) :
    ∀ c ∈ (render default afterCode ⟨lead, front⟩).getLast?, c = '\n' := by
  rcases List.eq_nil_or_concat front with rfl | ⟨front, ⟨b, stretch⟩, rfl⟩
  · simp only [render, Split.join, List.flatMap_nil, List.append_nil] at h ⊢
    intro c hc
    cases hlast : lead.getLast? with
    | none =>
      rw [List.getLast?_eq_none_iff.1 hlast, convertProse_nil] at hc
      cases hc
    | some d =>
      obtain rfl := h d hlast
      rw [getLast?_convertProse afterCode hlast] at hc
      exact (Option.some.inj hc).symm
  · -- a fence ends in a backtick, so the line feed stands in the stretch behind the last block
    rw [List.concat_eq_append, join_append, List.getLast?_append, List.getLast?_append,
      getLast?_toMarkdown] at h
    have hstretch : stretch.getLast? = some '\n' := by
      simp only [Split.join, List.flatMap_nil, List.append_nil] at h
      cases hlast : stretch.getLast? with
      | none => simp [hlast] at h
      | some d => simp_all
    rw [List.concat_eq_append, render_append, List.getLast?_append, List.getLast?_append]
    simp only [render, List.flatMap_nil, List.append_nil, getLast?_convertProse true hstretch]
    simp

theorem head?_render {stretch : Text} {behind : List (CodeBlock × Text)}
    (h : ∀ c ∈ (Split.join CodeBlock.toMarkdown ⟨stretch, behind⟩).head?, c = '\n')
    (default : Text) : ∀ c ∈ (render default true ⟨stretch, behind⟩).head?, c = '\n' := by
  cases stretch with
  | nil =>
    cases behind with
    | nil => simp [render]
    | cons p behind => simp [Split.join, toMarkdown, fence] at h
  | cons c stretch =>
    obtain rfl := h c (by simp [Split.join])
    simp [render, convertProse_true_cons_newline]

/-- A block of Markdown that names its language, with an opening fence that starts a line and a
closing fence that ends one, has its header and its code on lines of their own in Scrapbox. A scan
of these opens it with that language in just the line of the header, and as long as it stays open
the lines of its code come first in what has been taken in. -/
theorem run_toScrapbox_block {s : Text} {front behind : List (CodeBlock × Text)} {b : CodeBlock}
    {stretch : Text} (hfound : (markdown.split s).found = front ++ (b, stretch) :: behind)
    (hlang : b.language ≠ [])
    (hopen : ∀ c ∈ (Split.join CodeBlock.toMarkdown ⟨(markdown.split s).lead, front⟩).getLast?,
      c = '\n')
    (hclose : ∀ c ∈ (Split.join CodeBlock.toMarkdown ⟨stretch, behind⟩).head?, c = '\n')
    (default default' : Text) :
    ∃ before after : List Text,
      (toScrapbox default s).text.lines
          = before ++ ((header ++ b.language) :: b.body.lines.map (' ' :: ·)) ++ after
        ∧ Text.ofLines (before ++ [[]]) = render default false ⟨(markdown.split s).lead, front⟩
        ∧ Scrapbox.steps default' (Scrapbox.State.run default' {} before) (header ++ b.language)
            = (if (Scrapbox.State.run default' {} before).mode = .insideCodeBlock
                then [⟨{}, (Scrapbox.State.run default' {} before).block.markdownLines, true⟩]
                else [])
              ++ [⟨⟨.insideCodeBlock, b.language, []⟩, [], false⟩]
        ∧ ∀ more, (∀ line ∈ more, Scrapbox.continuesBlock line = true) →
            Scrapbox.State.run default' {}
                (before ++ ((header ++ b.language) :: b.body.lines.map (' ' :: ·)) ++ more)
              = ⟨.insideCodeBlock, b.language, b.body.lines ++ more.map (·.drop 1)⟩ := by
  have hb : b.IsFenceable :=
    (isTokenization_split s).isFenceable (b, stretch) (by simp [hfound])
  have hname : languageOr default' b.language.trim = b.language := by
    rw [Text.trim_of_isWord hb.isWord, languageOr, if_neg hlang]
  obtain ⟨before, hbefore, hleft⟩ :=
    Text.exists_lines_append_left (getLast?_render hopen default false)
  obtain ⟨after, hright⟩ := Text.exists_lines_append_right (head?_render hclose default)
  refine ⟨before, after, ?_, hbefore, ?_, fun more hmore => ?_⟩
  · have htext : (toScrapbox default s).text
        = render default false ⟨(markdown.split s).lead, front⟩
          ++ (b.toScrapbox default ++ render default true ⟨stretch, behind⟩) := by
      rw [← render_append, ← hfound]
      rfl
    rw [htext, hleft, hright, lines_toScrapbox hlang hb.isWord, List.append_assoc]
  · rw [Scrapbox.steps_header, hname]
  · have hlines : ∀ line ∈ b.body.lines.map (' ' :: ·) ++ more,
        Scrapbox.continuesBlock line = true := by
      intro line hline
      rcases List.mem_append.1 hline with hline | hline
      · obtain ⟨code, -, rfl⟩ := List.mem_map.1 hline
        rfl
      · exact hmore line hline
    rw [List.append_assoc, Scrapbox.State.run_append, List.cons_append, Scrapbox.State.run_cons,
      Scrapbox.next_header, hname, Scrapbox.run_inside default' b.language [] hlines,
      List.map_append, List.map_map, List.nil_append]
    simp [Function.comp_def]

/-- Prose before the block has left another open, and prose behind it runs on in the block. -/
theorem run_toScrapbox_block_reopen :
    (markdown.split "code:a\n```py\n[y]\n\n```\n z".toList).found
        = [] ++ (⟨"py".toList, "[y]\n".toList⟩, "\n z".toList) :: []
      ∧ ∃ before after : List Text,
        (toScrapbox usualLanguage "code:a\n```py\n[y]\n\n```\n z".toList).text.lines
          = before ++ ["code:py".toList, " [y]".toList, " ".toList] ++ after
        ∧ Scrapbox.State.run usualLanguage {}
            (before ++ ["code:py".toList, " [y]".toList, " ".toList] ++ [" z".toList])
          = ⟨.insideCodeBlock, "py".toList, ["[y]".toList, [], "z".toList]⟩ := by
  have hb : IsFenceable ⟨"py".toList, "[y]\n".toList⟩ :=
    ⟨by decide +kernel, by decide, by decide +kernel⟩
  have htext : "code:a\n```py\n[y]\n\n```\n z".toList
      = "code:a\n".toList ++ (CodeBlock.toMarkdown ⟨"py".toList, "[y]\n".toList⟩
        ++ "\n z".toList) := by decide +kernel
  have hsplit : markdown.split "code:a\n```py\n[y]\n\n```\n z".toList
      = ⟨"code:a\n".toList, [(⟨"py".toList, "[y]\n".toList⟩, "\n z".toList)]⟩ := by
    rw [htext, split_block (by decide +kernel) hb, split_of_no_fence (by decide +kernel)]
  have hfound : (markdown.split "code:a\n```py\n[y]\n\n```\n z".toList).found
      = [] ++ (⟨"py".toList, "[y]\n".toList⟩, "\n z".toList) :: [] := by
    rw [hsplit]
    rfl
  obtain ⟨before, after, hlines, -, -, hrun⟩ := run_toScrapbox_block hfound (by decide)
    (by rw [hsplit]; decide +kernel) (by decide +kernel) usualLanguage usualLanguage
  exact ⟨hfound, before, after, hlines, hrun [" z".toList] (by decide +kernel)⟩

end Markdown

end Dialects
