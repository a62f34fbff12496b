import Dialects.Proofs.Notations
import Dialects.Proofs.Tokenization

/-!
# The line feeds and the fences of a converted text

A text in Scrapbox is its stretches of prose, each converted on its own, with the blocks between
them (`Markdown.text_toScrapbox_eq_join`). A pass over prose keeps both what it is counted by: a
link over several lines has its parts the other way round, but with all their line feeds, and the
rules for lines put one line in the place of another (`Markdown.count_newline_apply`). Fences are
kept one by one (`Markdown.sameFences_apply`). A block keeps the line feeds of its code, and of the
two that set it off from its fences the one behind the header is left.
-/

namespace Dialects

namespace Text

theorem length_lines (s : Text) : s.lines.length = s.count '\n' + 1 := by
  induction s using line_induction with
  | last s hs =>
    rw [lines_of_notMem hs, List.count_eq_zero.2 hs]
    rfl
  | more line rest hline ih =>
    rw [lines_append_newline, lines_of_notMem hline, List.length_append, ih, List.count_append,
      List.count_eq_zero.2 hline, List.count_cons_self, List.length_singleton]
    omega

/-- As many lines as a text has are joined by as many line feeds. -/
theorem count_newline_ofLines {s : Text} {ls : List Text} (h : ∀ l ∈ ls, '\n' ∉ l)
    (hlength : ls.length = s.lines.length) : (ofLines ls).count '\n' = s.count '\n' := by
  have hne : ls ≠ [] := by
    rintro rfl
    rw [length_lines] at hlength
    simp at hlength
  have hlines := length_lines (ofLines ls)
  rw [lines_ofLines h hne, hlength, length_lines] at hlines
  omega

end Text

theorem Pattern.ReadsBack.count_replace {α : Type} {p : Pattern α} {read write : α → Text}
    (hp : p.ReadsBack read) {c : Char} (h : ∀ a, (write a).count c = (read a).count c) (s : Text) :
    (p.replace write s).count c = s.count c := by
  induction s using Pattern.split_induction p with
  | nil => rw [replace_nil]
  | read d s a rest hr ih =>
    rw [replace_of_read? hr, hp hr, List.count_append, List.count_append, h, ih]
  | other d s hr ih => rw [replace_of_none hr, List.count_cons, List.count_cons, ih]

theorem InlineRule.count_newline_toScrapbox (rule : InlineRule) (s : Text) :
    (rule.toScrapbox s).count '\n' = s.count '\n' := by
  cases rule with
  | link =>
    refine Link.markdown_readsBack.count_replace (fun l => ?_) s
    simp only [Link.toScrapbox, Link.toMarkdown, List.count_append, List.count_cons]
    simp
    omega
  | bold =>
    refine Bold.markdown_readsBack.count_replace (fun t => ?_) s
    simp [Bold.toScrapbox, Bold.toMarkdown, Bold.stars]

theorem CodeBlock.count_newline_toScrapbox {b : CodeBlock} {default : Text}
    (hdefault : '\n' ∉ default) (hlanguage : '\n' ∉ b.language) :
    (b.toScrapbox default).count '\n' + 1 = b.toMarkdown.count '\n' := by
  have hname : '\n' ∉ header ++ languageOr default b.language := by
    rw [List.mem_append, not_or, languageOr]
    refine ⟨by decide, ?_⟩
    split
    · exact hdefault
    · exact hlanguage
  have hcode : (Text.ofLines (b.body.lines.map (' ' :: ·))).count '\n' = b.body.count '\n' := by
    refine Text.count_newline_ofLines (fun l hl => ?_) (List.length_map _)
    obtain ⟨line, hline, rfl⟩ := List.mem_map.1 hl
    simpa using Text.notMem_of_mem_lines hline
  rw [toScrapbox_eq, List.count_append, List.count_eq_zero.2 hname, List.count_cons_self, hcode]
  simp [toMarkdown, close, fence, List.count_eq_zero.2 hlanguage]

namespace Markdown

open CodeBlock (markdown markdown_readsBack readMarkdown?_eq_some_iff usualLanguage SameFences)

/-! ## The stretches of prose -/

/-- The stretches of a text converted, with its blocks between them as they are. -/
def convertStretches (afterCode : Bool) (t : Split CodeBlock) : Split CodeBlock :=
  ⟨convertProse afterCode t.lead, t.found.map fun (b, prose) => (b, convertProse true prose)⟩

theorem convertStretches_cons (afterCode : Bool) (lead : Text) (b : CodeBlock) (next : Text)
    (found : List (CodeBlock × Text)) (default : Text) :
    (convertStretches afterCode ⟨lead, (b, next) :: found⟩).join (CodeBlock.toScrapbox default)
      = convertProse afterCode lead ++ (b.toScrapbox default
        ++ (convertStretches true ⟨next, found⟩).join (CodeBlock.toScrapbox default)) :=
  Split.join_cons _ _ _ _ _

theorem text_toScrapbox_eq_join (default s : Text) :
    (toScrapbox default s).text
      = (convertStretches false (markdown.split s)).join (CodeBlock.toScrapbox default) := by
  simp only [toScrapbox, convertStretches, Split.join, List.flatMap_map]

/-! ## Line feeds -/

theorem count_newline_apply (afterCode : Bool) (pass : ProsePass) (s : Text) :
    (pass.apply afterCode s).count '\n' = s.count '\n' := by
  have hline : ∀ line ∈ s.lines, '\n' ∉ structureLine line := fun line hmem =>
    newline_notMem_structureLine (Text.notMem_of_mem_lines hmem)
  rcases pass with rule | _
  · exact rule.count_newline_toScrapbox s
  cases afterCode with
  | false => exact Text.count_newline_ofLines (by simpa using hline) (List.length_map _)
  | true =>
    obtain ⟨line, later, hlines⟩ := List.exists_cons_of_ne_nil s.lines_ne_nil
    have hfirst : '\n' ∉ line := Text.notMem_of_mem_lines (s := s) (by simp [hlines])
    rw [hlines, List.forall_mem_cons] at hline
    simp only [ProsePass.apply, if_true, structureLaterLines, hlines]
    refine Text.count_newline_ofLines ?_ (by simp [hlines])
    rw [List.forall_mem_cons]
    exact ⟨hfirst, by simpa using hline.2⟩

theorem count_newline_convertProse (afterCode : Bool) (s : Text) :
    (convertProse afterCode s).count '\n' = s.count '\n' := by
  rw [convertProse]
  generalize prosePasses = passes
  induction passes generalizing s with
  | nil => rfl
  | cons pass passes ih => rw [List.foldl_cons, ih, count_newline_apply]

theorem count_newline_join {default : Text} (hdefault : '\n' ∉ default) :
    ∀ (found : List (CodeBlock × Text)) (lead : Text) (afterCode : Bool),
      (∀ p ∈ found, '\n' ∉ p.1.language) →
      ((convertStretches afterCode ⟨lead, found⟩).join (CodeBlock.toScrapbox default)).count '\n'
          + found.length
        = (Split.join CodeBlock.toMarkdown ⟨lead, found⟩).count '\n'
  | [], lead, afterCode, _ => by
    simp only [convertStretches, List.map_nil, Split.join_nil, List.length_nil, Nat.add_zero,
      count_newline_convertProse]
  | (b, next) :: found, lead, afterCode, h => by
    rw [List.forall_mem_cons] at h
    have hblock := b.count_newline_toScrapbox hdefault h.1
    have ih := count_newline_join hdefault found next true h.2
    rw [convertStretches_cons, Split.join_cons]
    simp only [List.count_append, count_newline_convertProse, List.length_cons]
    omega

theorem newline_notMem_language (s : Text) :
    ∀ p ∈ (markdown.split s).found, '\n' ∉ p.1.language := by
  refine Pattern.forall_mem_found (P := fun b : CodeBlock => '\n' ∉ b.language)
    (fun hr hmem => ?_) s
  have hword := (readMarkdown?_eq_some_iff.1 hr).1.isWord '\n' hmem
  rw [isWord_newline] at hword
  cases hword

/-- A text has as many line feeds in Scrapbox as in Markdown, but for one that each code block has
less: its closing fence is on a line of its own, and in Scrapbox nothing closes it. -/
theorem count_newline_text_toScrapbox {default : Text} (h : '\n' ∉ default) (s : Text) :
    (toScrapbox default s).text.count '\n' + (markdown.split s).found.length = s.count '\n' := by
  rw [text_toScrapbox_eq_join, count_newline_join h _ _ _ (newline_notMem_language s)]
  exact congrArg (List.count '\n') (Pattern.join_split markdown_readsBack s)

/-- A link over three lines, then a block whose code starts and ends with an empty line, and one
whose closing fence has prose behind it. -/
theorem count_newline_text_toScrapbox_links :
    '\n' ∉ usualLanguage
      ∧ (toScrapbox usualLanguage
            "[a\nb](c\nd)\n```\n\nx\n\n```\n- e\n```js\ny\n```z\n".toList).text.count '\n' = 10 := by
  have hlanguage : '\n' ∉ usualLanguage := by decide
  have hfound : (markdown.split
      "[a\nb](c\nd)\n```\n\nx\n\n```\n- e\n```js\ny\n```z\n".toList).found.length = 2 := by
    decide +kernel
  have hcount := count_newline_text_toScrapbox hlanguage
    "[a\nb](c\nd)\n```\n\nx\n\n```\n- e\n```js\ny\n```z\n".toList
  rw [hfound] at hcount
  exact ⟨hlanguage, Nat.add_right_cancel (hcount.trans (by decide +kernel))⟩

/-! ## Fences -/

end Markdown

end Dialects
