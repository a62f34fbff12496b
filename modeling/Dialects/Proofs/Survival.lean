import Dialects.Proofs.Opacity
import Dialects.Proofs.Parts

/-!
# Code blocks there and back

In Scrapbox a code block goes on over all lines behind it that are empty or start with a space, and
the list items of the prose behind it do. A block comes back from Scrapbox with the code of these
lines behind its own (`Markdown.isHeadOf_runOn`). Whether there is any can be seen from the prose
in Markdown (`Markdown.ExtendsCode`), as what a line is shows in front of its first bracket or star
and the inline rules leave one there (`Markdown.extendsCode_allToScrapbox`).
-/

namespace Dialects

namespace Scrapbox

/-- These lines give a code block that stands before them more than blanks. -/
def ExtendsBlock (lines : List Text) : Prop :=
  ∃ line ∈ lines.takeWhile continuesBlock, line.isBlank = false

instance (lines : List Text) : Decidable (ExtendsBlock lines) :=
  inferInstanceAs (Decidable (∃ line ∈ _, _))

theorem extendsBlock_cons {line : Text} {lines : List Text} :
    ExtendsBlock (line :: lines)
      ↔ continuesBlock line = true ∧ (line.isBlank = false ∨ ExtendsBlock lines) := by
  cases h : continuesBlock line <;> simp [ExtendsBlock, h]

theorem isBlank_drop_one :
    ∀ {line : Text}, continuesBlock line = true → Text.isBlank (line.drop 1) = line.isBlank
  | [], _ => rfl
  | c :: line, h => by
    simp only [continuesBlock, List.head?_cons, Option.all_some, decide_eq_true_eq] at h
    subst h
    rw [Text.isBlank_cons, isBlank_space, Bool.true_and]
    rfl

/-- The code that these lines give to a block that stands before them. -/
def runOn (lines : List Text) : List Text := (lines.takeWhile continuesBlock).map (·.drop 1)

theorem extendsBlock_iff {lines : List Text} :
    ExtendsBlock lines ↔ Text.isBlank (Text.ofLines (runOn lines)) = false := by
  rw [Text.isBlank_ofLines, List.all_eq_false, ExtendsBlock]
  simp only [runOn, List.mem_map, exists_exists_and_eq_and]
  refine exists_congr fun line => and_congr_right fun hline => ?_
  rw [isBlank_drop_one (List.mem_takeWhile_imp hline), Bool.not_eq_true]

/-- What a block runs on over is found in the lines. -/
theorem exists_infix_of_runOn {lines : List Text} {t : Text}
    (h : ∃ code ∈ runOn lines, t <:+: code) : ∃ line ∈ lines, t <:+: line := by
  obtain ⟨code, hcode, ht⟩ := h
  obtain ⟨line, hline, rfl⟩ := List.mem_map.1 hcode
  exact ⟨line, (List.takeWhile_subset _) hline, ht.trans (List.drop_suffix 1 line).isInfix⟩

end Scrapbox

namespace Markdown

open Scrapbox

/-- The prose gives a code block that stands before it more than blanks. -/
def ExtendsCode (prose : Text) : Prop := ExtendsBlock (prose.lines.map structureLine)

instance (prose : Text) : Decidable (ExtendsCode prose) :=
  inferInstanceAs (Decidable (ExtendsBlock _))

theorem extendsCode_append_newline {line : Text} (hline : '\n' ∉ line) (s : Text) :
    ExtendsCode (line ++ '\n' :: s)
      ↔ continuesBlock (structureLine line) = true
        ∧ ((structureLine line).isBlank = false ∨ ExtendsCode s) := by
  rw [ExtendsCode, Text.lines_append_newline, Text.lines_of_notMem hline, List.singleton_append,
    List.map_cons, extendsBlock_cons, ExtendsCode]

theorem extendsCode_append_cons {u v : Text} (hu : '\n' ∉ u)
    (hv : ∀ c w, IsUnmarked c → structureLine (u ++ c :: w) = v ++ c :: w) {c : Char}
    (hc : IsUnmarked c) (w : Text) : ExtendsCode (u ++ c :: w) ↔ v.head? = some ' ' := by
  have hlead : '\n' ∉ u ++ [c] := by
    simp [hu, (ne_of_isBlank hc.isBlank isBlank_newline).symm]
  obtain ⟨first, later, -, hlines⟩ := Text.exists_lines_append hlead w
  simp only [List.append_assoc, List.singleton_append] at hlines
  have hblank : Text.isBlank (v ++ c :: first) = false :=
    Text.isBlank_eq_false_of_mem (by simp) hc.isBlank
  have hcontinues : continuesBlock (v ++ c :: first) = true ↔ v.head? = some ' ' := by
    cases v with
    | nil => simp [continuesBlock, ne_of_isBlank hc.isBlank isBlank_space]
    | cons d v => simp [continuesBlock]
  rw [ExtendsCode, hlines, List.map_cons, hv c first hc, extendsBlock_cons, hcontinues]
  simp [hblank]

/-- What stands behind an unmarked character has no say in whether a block is extended. -/
theorem extendsCode_append_congr {c c' : Char} (hc : IsUnmarked c) (hc' : IsUnmarked c')
    (u w w' : Text) : ExtendsCode (u ++ c :: w) ↔ ExtendsCode (u ++ c' :: w') := by
  induction u using Text.line_induction with
  | last u hu =>
    obtain ⟨v, hv⟩ := exists_structureLine_append u
    rw [extendsCode_append_cons hu hv hc, extendsCode_append_cons hu hv hc']
  | more line rest hline ih =>
    simp only [List.append_assoc, List.cons_append, extendsCode_append_newline hline, ih]

theorem extendsCode_replace {α : Type} {p : Pattern α} {write : α → Text} {c d : Char}
    (hp : p.StartsWith c) (hc : IsUnmarked c) (hwrite : ∀ a, (write a).head? = some d)
    (hd : IsUnmarked d) (s : Text) : ExtendsCode (p.replace write s) ↔ ExtendsCode s := by
  by_cases hs : c ∈ s
  · obtain ⟨u, w, rfl, hu⟩ := List.eq_append_cons_of_mem hs
    rw [hp.replace_append hu]
    rcases hr : p.read? (c :: w) with _ | ⟨a, rest⟩
    · rw [Pattern.replace_of_none hr]
      exact extendsCode_append_congr hc hc u _ w
    · obtain ⟨t, ht⟩ := List.head?_eq_some_iff.1 (hwrite a)
      rw [Pattern.replace_of_read? hr, ht, List.cons_append]
      exact extendsCode_append_congr hd hc u _ w
  · rw [hp.replace_of_notMem hs]

theorem extendsCode_allToScrapbox (s : Text) :
    ExtendsCode (InlineRule.allToScrapbox s) ↔ ExtendsCode s := by
  have hbracket : IsUnmarked '[' := ⟨by decide, by decide, by decide⟩
  have hstar : IsUnmarked '*' := ⟨by decide, by decide, by decide⟩
  simp only [InlineRule.allToScrapbox_eq, InlineRule.toScrapbox]
  rw [extendsCode_replace Bold.markdown_startsWith hstar (fun _ => rfl) hbracket,
    extendsCode_replace Link.markdown_startsWith hbracket (fun _ => rfl) hbracket]

theorem extendsBlock_lines_convertProse (s : Text) :
    ExtendsBlock (convertProse false s).lines ↔ ExtendsCode s := by
  rw [convertProse_false, lines_structureLines]
  exact extendsCode_allToScrapbox s

end Markdown

namespace CodeBlock

/-- The block stands first in the text, with nothing behind its closing fence on that line. -/
def IsHeadOf (b : CodeBlock) (s : Text) : Prop :=
  ∃ behind, (∀ c ∈ behind.head?, c = '\n') ∧ s = b.toMarkdown ++ behind

theorem IsHeadOf.trimRight {b : CodeBlock} {s : Text} (h : b.IsHeadOf s) :
    b.IsHeadOf s.trimRight := by
  obtain ⟨behind, hbehind, rfl⟩ := h
  refine ⟨behind.trimRight, fun c hc => hbehind c ?_, Text.trimRight_append_of_getLast? ?_ behind⟩
  · obtain ⟨t, ht⟩ := Text.trimRight_prefix behind
    obtain ⟨u, hu⟩ := List.head?_eq_some_iff.1 hc
    rw [← ht, hu]
    rfl
  · rw [getLast?_toMarkdown]
    decide

theorem isHeadOf_ofLines {b : CodeBlock} (h : b.body ≠ []) (lines : List Text) :
    b.IsHeadOf (Text.ofLines (b.markdownLines ++ lines)) := by
  refine ⟨Text.ofLines ([] :: lines), fun c hc => ?_, ofLines_markdownLines_append h lines⟩
  by_cases hlines : lines = []
  · simp [hlines] at hc
  · simpa [Text.ofLines_cons hlines, eq_comm] using hc

/-- Code that goes on behind a body lets that body stand first only if it goes on with a fence. -/
theorem fence_prefix_of_isHeadOf {language body more s : Text}
    (h : IsHeadOf ⟨language, body⟩ s) (h' : IsHeadOf ⟨language, body ++ '\n' :: more⟩ s) :
    fence <+: more := by
  obtain ⟨behind, -, rfl⟩ := h
  obtain ⟨behind', -, heq⟩ := h'
  simp only [toMarkdown, close, List.append_assoc, List.cons_append, List.append_cancel_left_eq,
    List.cons.injEq, true_and] at heq
  exact (Text.prefix_append_cons_iff (by decide) more _).1 ⟨behind, heq⟩

end CodeBlock

namespace Scrapbox

theorem Part.code_append_of_isBlank {body : Text} {more : List Text}
    (hlast : ∀ c ∈ body.getLast?, isBlank c = false)
    (hmore : Text.isBlank (Text.ofLines more) = true) : code (body.lines ++ more) = body := by
  by_cases hnil : more = []
  · rw [hnil, List.append_nil, code, Text.ofLines_lines, Text.trimRight_of_getLast? hlast]
  · have hblank : Text.isBlank ('\n' :: Text.ofLines more) = true := by
      rw [Text.isBlank_cons, isBlank_newline, hmore]
      rfl
    rw [code, Text.ofLines_append body.lines_ne_nil hnil, Text.ofLines_lines,
      Text.trimRight_append_blank hblank, Text.trimRight_of_getLast? hlast]

theorem Part.code_append_of_isBlank_eq_false {body : Text} {more : List Text}
    (hmore : Text.isBlank (Text.ofLines more) = false) :
    code (body.lines ++ more) = body ++ '\n' :: (Text.ofLines more).trimRight := by
  have hnil : more ≠ [] := by
    rintro rfl
    cases hmore
  have hsplit : body ++ '\n' :: Text.ofLines more = body ++ ['\n'] ++ Text.ofLines more := by simp
  rw [code, Text.ofLines_append body.lines_ne_nil hnil, Text.ofLines_lines, hsplit,
    Text.trimRight_append hmore]
  simp

/-- A block that stands first comes out first, with the lines that continue it. -/
theorem isHeadOf_toMarkdown {language s : Text} (hne : language ≠ [])
    (hword : ∀ c ∈ language, isWord c = true) {body lines : List Text}
    (hs : s.lines = (CodeBlock.header ++ language) :: (body.map (' ' :: ·) ++ lines))
    (hcode : Part.code (body ++ runOn lines) ≠ []) (default : Text) :
    CodeBlock.IsHeadOf ⟨language, Part.code (body ++ runOn lines)⟩ (toMarkdown default s).text := by
  rw [toMarkdown, output_eq_ofParts, hs, Part.ofLines_block default 1 hne hword]
  simp only [Output.ofParts, List.flatMap_cons, Part.markdownLines_block]
  exact (CodeBlock.isHeadOf_ofLines hcode _).trimRight

end Scrapbox

namespace Markdown

open CodeBlock Scrapbox

theorem text_toScrapbox_block {b : CodeBlock} {prose : Text} (hb : b.IsFenceable)
    (hprose : ¬ fence <:+: prose) (default : Text) :
    (toScrapbox default (b.toMarkdown ++ '\n' :: prose)).text
      = b.toScrapbox default ++ '\n' :: convertProse false prose := by
  have hnil : ¬ fence <:+: ([] : Text) := by decide
  have hblock := convertFrom_block default false hnil hb ('\n' :: prose)
  rw [List.nil_append, convertFrom_true_newline, toScrapbox_eq_convertFrom default prose,
    convertFrom_of_no_fence default false hprose, convertProse_nil, List.nil_append] at hblock
  rw [toScrapbox_eq_convertFrom, hblock]

/-- A block comes back with the code that the prose behind it gives it. -/
theorem isHeadOf_runOn {b : CodeBlock} {prose : Text} (hlang : b.language ≠ [])
    (hb : b.IsFenceable) (hprose : ¬ fence <:+: prose) (default default' : Text)
    (hcode : Part.code (b.body.lines ++ runOn (convertProse false prose).lines) ≠ []) :
    IsHeadOf ⟨b.language, Part.code (b.body.lines ++ runOn (convertProse false prose).lines)⟩
      (Scrapbox.toMarkdown default'
        (toScrapbox default (b.toMarkdown ++ '\n' :: prose)).text).text := by
  refine isHeadOf_toMarkdown hlang hb.isWord ?_ hcode default'
  rw [text_toScrapbox_block hb hprose, Text.lines_append_newline, lines_toScrapbox hlang hb.isWord]
  rfl

/-- A code block comes back from Scrapbox as it was exactly if the prose behind it gives it no code:
of the empty lines, the indented ones and the items it starts with, none holds more than blanks. -/
theorem isHeadOf_toMarkdown_iff {b : CodeBlock} {prose : Text} (hlang : b.language ≠ [])
    (hword : ∀ c ∈ b.language, isWord c = true) (hne : b.body ≠ [])
    (hlast : ∀ c ∈ b.body.getLast?, isBlank c = false)
    (hfence : ∀ line ∈ b.body.lines, ¬ fence <+: line) (hprose : ¬ fence <:+: prose)
    (default default' : Text) :
    b.IsHeadOf (Scrapbox.toMarkdown default'
        (toScrapbox default (b.toMarkdown ++ '\n' :: prose)).text).text
      ↔ ¬ ExtendsCode prose := by
  have hb : b.IsFenceable :=
    isFenceable_of_lines hword hne fun line hline => hfence line (List.mem_of_mem_tail hline)
  have hhead := isHeadOf_runOn hlang hb hprose default default'
  rw [← extendsBlock_lines_convertProse, extendsBlock_iff, Bool.not_eq_false]
  constructor
  · intro h
    by_contra hmore
    rw [Bool.not_eq_true] at hmore
    rw [Part.code_append_of_isBlank_eq_false hmore] at hhead
    have hstart := fence_prefix_of_isHeadOf h (hhead (by simp))
    have hcode := fence_infix_ofLines.1 (hstart.trans (Text.trimRight_prefix _)).isInfix
    have hlines := fence_infix_ofLines.2 (exists_infix_of_runOn hcode)
    rw [Text.ofLines_lines] at hlines
    exact (sameFences_convertProse false prose).no_fence hprose hlines
  · intro hmore
    rw [Part.code_append_of_isBlank hlast hmore] at hhead
    exact hhead hne

/-- An item right behind the block becomes its code, and one behind another line does not. -/
theorem isHeadOf_toMarkdown_iff_item :
    (∀ c ∈ ['j', 's'], isWord c = true) ∧ (∀ line ∈ Text.lines ['x'], ¬ fence <+: line)
      ∧ ¬ fence <:+: "- item".toList ∧ ¬ fence <:+: "\n \n[a](b)\n- item".toList
      ∧ ¬ IsHeadOf ⟨['j', 's'], ['x']⟩ (Scrapbox.toMarkdown usualLanguage (toScrapbox usualLanguage
          (CodeBlock.toMarkdown ⟨['j', 's'], ['x']⟩ ++ '\n' :: "- item".toList)).text).text
      ∧ IsHeadOf ⟨['j', 's'], ['x']⟩ (Scrapbox.toMarkdown usualLanguage (toScrapbox usualLanguage
          (CodeBlock.toMarkdown ⟨['j', 's'], ['x']⟩
            ++ '\n' :: "\n \n[a](b)\n- item".toList)).text).text :=
  have hword : ∀ c ∈ ['j', 's'], isWord c = true := by decide
  have hfence : ∀ line ∈ Text.lines ['x'], ¬ fence <+: line := by decide
  have hitem : ¬ fence <:+: "- item".toList := by decide +kernel
  have hlink : ¬ fence <:+: "\n \n[a](b)\n- item".toList := by decide +kernel
  have hiff := @isHeadOf_toMarkdown_iff ⟨['j', 's'], ['x']⟩
  ⟨hword, hfence, hitem, hlink,
    fun h => (hiff (by decide) hword (by decide) (by decide) hfence hitem _ _).1 h
      (by decide +kernel),
    (hiff (by decide) hword (by decide) (by decide) hfence hlink _ _).2 (by decide +kernel)⟩

end Markdown

end Dialects
