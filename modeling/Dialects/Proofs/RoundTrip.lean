import Mathlib.Data.List.Infix
import Dialects.Conversion
import Dialects.Document
import Dialects.Proofs.Opacity
import Dialects.Proofs.Parts

/-!
# Canonical documents round-trip

In a canonical document every block that is not code is one line, and each dialect's line rule
takes the one form of that line to the other (`Document.Block.exists_isLinePair`). The lines before
a code block are prose without a fence, so the block is found where it stands, and the first line
behind its code in Scrapbox does not continue it. So the two forms of a document convert into each
other (`Document.toScrapbox_of_isCanonical`, `Document.toMarkdown_of_isCanonical`), but for the
blanks at the end of the Markdown one, which no conversion to Markdown leaves.
-/

namespace Dialects

open CodeBlock

namespace Markdown

/-- Prose without inline notations is restructured line by line. -/
theorem convertProse_ofLines {lines : List Text}
    (h : ∀ line ∈ lines, Document.Block.IsPlainText line) :
    convertProse false (Text.ofLines lines) = Text.ofLines (lines.map structureLine) := by
  have hlink : '[' ∉ Text.ofLines lines := fun hm =>
    have ⟨line, hl, hm⟩ := (Text.mem_ofLines (by decide)).1 hm
    (h line hl).1 hm
  have hbold : '*' ∉ Text.ofLines lines := fun hm =>
    have ⟨line, hl, hm⟩ := (Text.mem_ofLines (by decide)).1 hm
    (h line hl).2.1 hm
  rw [convertProse_false, InlineRule.allToScrapbox_of_notMem hlink hbold]
  cases lines with
  | nil => rfl
  | cons line lines =>
    rw [structureLines, Text.lines_ofLines (fun l hl => (h l hl).2.2.1) (by simp)]

end Markdown

namespace Document

open Markdown

theorem no_fence_ofLines {lines : List Text} (h : ∀ line ∈ lines, Block.IsPlainText line) :
    ¬ fence <:+: Text.ofLines lines := fun hin =>
  have ⟨line, hl, hin⟩ := fence_infix_ofLines.1 hin
  (h line hl).2.2.2 hin

namespace Block

theorem exists_of_isCode : ∀ {b : Block}, b.isCode = true → ∃ language body, b = code language body
  | code _ _, _ => ⟨_, _, rfl⟩

theorem isPlainText_nil : IsPlainText [] := ⟨by simp, by simp, by simp, by decide⟩

theorem IsPlainText.append {s t : Text} (hs : '[' ∉ s ∧ '*' ∉ s ∧ '\n' ∉ s ∧ '\x60' ∉ s)
    (ht : IsPlainText t) : IsPlainText (s ++ t) := by
  obtain ⟨h1, h2, h3, h4⟩ := hs
  obtain ⟨h1', h2', h3', h4'⟩ := ht
  refine ⟨by simp [h1, h1'], by simp [h2, h2'], by simp [h3, h3'], ?_⟩
  rw [← countFences_eq_zero_iff, countFences_append_of_notMem h4, countFences_eq_zero_iff]
  exact h4'

/-- A line of prose in Markdown and in Scrapbox, each converted to the other. -/
structure IsLinePair (markdown scrapbox : Text) : Prop where
  plain_markdown : IsPlainText markdown
  plain_scrapbox : IsPlainText scrapbox
  structureLine_eq : Markdown.structureLine markdown = scrapbox
  structureLine_eq' : Scrapbox.structureLine scrapbox = markdown
  not_header : Text.after? header scrapbox = none

theorem IsLinePair.convertLine_eq {m s : Text} (h : IsLinePair m s) :
    Scrapbox.convertLine s = m := by
  rw [Scrapbox.convertLine, InlineRule.allToMarkdown_of_notMem h.plain_scrapbox.1,
    h.structureLine_eq']

theorem isLinePair_blank : IsLinePair [] [] :=
  ⟨isPlainText_nil, isPlainText_nil, rfl, rfl, rfl⟩

theorem isLinePair_plain {t : Text} (h : (plain t).IsCanonical) : IsLinePair t t := by
  obtain ⟨-, hplain, hhead, hmarks⟩ := h
  refine ⟨hplain, hplain, structureLine_plain ?_ ?_, Scrapbox.structureLine_plain ?_ ?_, ?_⟩
  · intro h
    exact hmarks _ (by cases h <;> simp [marks, Heading.all])
  · rintro lead level hlead ⟨t', rfl⟩
    cases hlead with
    | @indented indent hlen hb =>
      obtain ⟨c, indent, rfl⟩ := List.exists_cons_of_ne_nil (List.ne_nil_of_length_pos
        (Nat.lt_of_lt_of_le Nat.two_pos hlen))
      exact ne_of_isBlank (hhead c (by simp)) (hb c (by simp)) rfl
    | marked hmem =>
      refine hmarks lead ?_ ⟨t', rfl⟩
      simp only [marks, List.mem_append, List.mem_map]
      exact .inl (.inr ⟨_, hmem, rfl⟩)
  · intro h
    exact hmarks _ (by cases h <;> simp [marks, Heading.all])
  · exact fun hspace => ne_of_isBlank (hhead ' ' hspace) isBlank_space rfl
  · rw [Option.eq_none_iff_forall_ne_some]
    intro name hname
    exact hmarks header (by simp [marks]) ⟨name, (Text.after?_eq_some_iff.1 hname).symm⟩

theorem isLinePair_heading {h : Heading} {t : Text} (ht : IsPlainText t) :
    IsLinePair (h.markdownMark ++ t) (h.scrapboxMark ++ t) := by
  refine ⟨.append ?_ ht, .append ?_ ht, structureLine_heading h t,
    Scrapbox.structureLine_heading h t, ?_⟩
  · cases h <;> decide
  · cases h <;> decide
  · cases h <;> rfl

theorem isLinePair_item {level : Nat} {t : Text} (hpos : 0 < level) (ht : IsPlainText t)
    (hspace : t.head? ≠ some ' ') :
    IsLinePair (ListItem.markdownLead level ++ t) (ListItem.scrapboxLead level ++ t) := by
  have hlead : ∀ c : Char, c ≠ '-' → c ≠ ' ' → c ∉ ListItem.markdownLead level := by
    intro c hdash hspace hm
    rcases ListItem.eq_of_mem_markdownLead hm with rfl | rfl
    · exact hdash rfl
    · exact hspace rfl
  have hspaces : ∀ c : Char, c ≠ ' ' → c ∉ ListItem.scrapboxLead level :=
    fun c hc hm => hc (List.eq_of_mem_replicate hm)
  refine ⟨.append ?_ ht, .append ?_ ht,
    structureLine_item (ListItem.isMarkdownLead_markdownLead hpos) t,
    Scrapbox.structureLine_item hpos hspace, ?_⟩
  · exact ⟨hlead _ (by decide) (by decide), hlead _ (by decide) (by decide),
      hlead _ (by decide) (by decide), hlead _ (by decide) (by decide)⟩
  · exact ⟨hspaces _ (by decide), hspaces _ (by decide), hspaces _ (by decide),
      hspaces _ (by decide)⟩
  · obtain ⟨n, rfl⟩ : ∃ n, level = n + 1 := ⟨level - 1, by omega⟩
    rfl

theorem exists_isLinePair : ∀ {b : Block}, b.IsCanonical → b.isCode = false →
    ∃ m s, IsLinePair m s ∧ b.markdownLines = [m] ∧ b.scrapboxLines = [s]
  | .blank, _, _ => ⟨_, _, isLinePair_blank, rfl, rfl⟩
  | .plain _, h, _ => ⟨_, _, isLinePair_plain h, rfl, rfl⟩
  | .heading _ _, h, _ => ⟨_, _, isLinePair_heading h, rfl, rfl⟩
  | .item _ _, h, _ => ⟨_, _, isLinePair_item h.1 h.2.1 h.2.2, rfl, rfl⟩

section Code

variable {language : Text} {body : List Text} (h : (code language body).IsCanonical)

include h

theorem body_ne_nil : body ≠ [] := by
  rintro rfl
  exact h.2.2.2.1 rfl

theorem lines_ofLines_code : (Text.ofLines body).lines = body :=
  Text.lines_ofLines h.2.2.1 (body_ne_nil h)

theorem isFenceable_code : CodeBlock.IsFenceable ⟨language, Text.ofLines body⟩ := by
  have hlines := lines_ofLines_code h
  obtain ⟨-, hword, -, hne, -, hfence⟩ := h
  exact isFenceable_of_lines hword hne (by rwa [hlines])

theorem markdownLines_code :
    CodeBlock.markdownLines ⟨language, Text.ofLines body⟩ = (code language body).markdownLines := by
  rw [CodeBlock.markdownLines, if_neg h.2.2.2.1, lines_ofLines_code h, markdownLines]

theorem ofLines_markdownLines_code :
    Text.ofLines (code language body).markdownLines
      = CodeBlock.toMarkdown ⟨language, Text.ofLines body⟩ := by
  rw [← markdownLines_code h, ofLines_markdownLines h.2.2.2.1]

theorem scrapboxLines_code (default : Text) :
    CodeBlock.scrapboxLines default ⟨language, Text.ofLines body⟩
      = (code language body).scrapboxLines := by
  rw [CodeBlock.scrapboxLines, CodeBlock.languageOr, if_neg h.1, lines_ofLines_code h,
    scrapboxLines]

end Code

end Block

instance (t : Text) : Decidable (Block.IsPlainText t) := inferInstanceAs (Decidable (_ ∧ _))

instance : DecidablePred Block.IsCanonical
  | .blank => .isTrue trivial
  | .plain _ => inferInstanceAs (Decidable (_ ∧ _))
  | .heading _ t => inferInstanceAs (Decidable (Block.IsPlainText t))
  | .item _ _ => inferInstanceAs (Decidable (_ ∧ _))
  | .code _ _ => inferInstanceAs (Decidable (_ ∧ _))

instance decidableIsCanonical : DecidablePred IsCanonical
  | [] => .isTrue trivial
  | _ :: blocks =>
    have : Decidable (IsCanonical blocks) := decidableIsCanonical blocks
    inferInstanceAs (Decidable (_ ∧ _))

theorem IsCanonical.mem {b : Block} : ∀ {blocks : List Block}, IsCanonical blocks → b ∈ blocks →
    b.IsCanonical
  | _ :: _, h, hb => by
    rcases List.mem_cons.1 hb with rfl | hb
    · exact h.1
    · exact IsCanonical.mem h.2.2 hb

theorem flatMap_ne_nil {f : Block → List Text} (hf : ∀ b, f b ≠ []) (b : Block)
    (blocks : List Block) : (b :: blocks).flatMap f ≠ [] := by
  simp [hf b]

theorem Block.markdownLines_ne_nil (b : Block) : b.markdownLines ≠ [] := by
  cases b <;> simp [Block.markdownLines]

theorem Block.scrapboxLines_ne_nil (b : Block) : b.scrapboxLines ≠ [] := by
  cases b <;> simp [Block.scrapboxLines]

/-- A code block behind lines of prose, with the blocks behind it converted already. -/
theorem convertFrom_code {default language : Text} {body lines : List Text} {blocks : List Block}
    (hcode : (Block.code language body).IsCanonical) (hl : ∀ l ∈ lines, Block.IsPlainText l)
    (hblocks : convertFrom default false (toMarkdown blocks) = ⟨toScrapbox blocks, []⟩) :
    convertFrom default false
        (Text.ofLines (lines ++ (Block.code language body :: blocks).flatMap Block.markdownLines))
      = ⟨Text.ofLines (lines.map structureLine
          ++ (Block.code language body :: blocks).flatMap Block.scrapboxLines), []⟩ := by
  have hplain : ∀ l ∈ lines ++ [[]], Block.IsPlainText l := by
    intro l hm
    rcases List.mem_append.1 hm with hm | hm
    · exact hl l hm
    · rw [List.mem_singleton.1 hm]
      exact Block.isPlainText_nil
  have hprose : convertProse false (Text.ofLines (lines ++ [[]]))
      = Text.ofLines (lines.map structureLine ++ [[]]) := by
    rw [convertProse_ofLines hplain, List.map_append]
    rfl
  have hblock := convertFrom_block default false (no_fence_ofLines hplain)
    (Block.isFenceable_code hcode)
  rw [Text.ofLines_append_of_ne_nil lines (flatMap_ne_nil Block.markdownLines_ne_nil _ _),
    Text.ofLines_append_of_ne_nil _ (flatMap_ne_nil Block.scrapboxLines_ne_nil _ _),
    List.flatMap_cons, List.flatMap_cons]
  cases blocks with
  | nil =>
    rw [List.flatMap_nil, List.append_nil, Block.ofLines_markdownLines_code hcode,
      ← List.append_nil (CodeBlock.toMarkdown _), hblock, hprose,
      CodeBlock.toScrapbox, Block.scrapboxLines_code hcode, convertFrom_nil]
    simp
  | cons b blocks =>
    rw [Text.ofLines_append (Block.markdownLines_ne_nil _)
        (flatMap_ne_nil Block.markdownLines_ne_nil b blocks),
      Text.ofLines_append (Block.scrapboxLines_ne_nil _)
        (flatMap_ne_nil Block.scrapboxLines_ne_nil b blocks),
      Block.ofLines_markdownLines_code hcode, hblock, hprose,
      CodeBlock.toScrapbox, Block.scrapboxLines_code hcode, convertFrom_true_newline,
      toScrapbox_eq_convertFrom]
    rw [toMarkdown] at hblocks
    rw [hblocks, toScrapbox]
    simp

/-- Lines of prose and the blocks behind them: a block that is one line joins the lines before it,
and a code block ends them. -/
theorem convertFrom_append (default : Text) : ∀ {blocks : List Block}, IsCanonical blocks →
    ∀ lines : List Text, (∀ l ∈ lines, Block.IsPlainText l) →
      convertFrom default false (Text.ofLines (lines ++ blocks.flatMap Block.markdownLines))
        = ⟨Text.ofLines (lines.map structureLine ++ blocks.flatMap Block.scrapboxLines), []⟩
  | [], _, lines, hl => by
    rw [List.flatMap_nil, List.flatMap_nil, List.append_nil, List.append_nil,
      convertFrom_of_no_fence default false (no_fence_ofLines hl), convertProse_ofLines hl]
  | b :: blocks, ⟨hb, _, hblocks⟩, lines, hl => by
    cases hcode : b.isCode with
    | true =>
      obtain ⟨language, body, rfl⟩ := Block.exists_of_isCode hcode
      have ih := convertFrom_append default hblocks [] (by simp)
      rw [List.map_nil, List.nil_append, List.nil_append] at ih
      exact convertFrom_code hb hl ih
    | false =>
      obtain ⟨m, s, hpair, hm, hs⟩ := Block.exists_isLinePair hb hcode
      have hl' : ∀ l ∈ lines ++ [m], Block.IsPlainText l := by
        intro l hmem
        rcases List.mem_append.1 hmem with hmem | hmem
        · exact hl l hmem
        · exact List.mem_singleton.1 hmem ▸ hpair.plain_markdown
      have ih := convertFrom_append default hblocks _ hl'
      rw [List.map_append, List.map_singleton, hpair.structureLine_eq, List.append_assoc,
        List.append_assoc] at ih
      rw [List.flatMap_cons, List.flatMap_cons, hm, hs]
      exact ih

theorem Block.exists_of_endsCode {b : Block} (hb : b.IsCanonical) (he : b.endsCode = true) :
    ∃ line later, b.scrapboxLines = line :: later ∧ Scrapbox.continuesBlock line = false := by
  cases b with
  | blank => cases he
  | plain t =>
    obtain ⟨hne, -, hhead, -⟩ := hb
    obtain ⟨c, t, rfl⟩ := List.exists_cons_of_ne_nil hne
    refine ⟨c :: t, [], rfl, ?_⟩
    have hc : c ≠ ' ' := ne_of_isBlank (hhead c (by simp)) isBlank_space
    simpa [Scrapbox.continuesBlock] using hc
  | heading h t => exact ⟨_, _, rfl, by cases h <;> rfl⟩
  | item => cases he
  | code language body => exact ⟨_, _, rfl, rfl⟩

/-- The lines behind a canonical code block do not continue it. -/
theorem takeWhile_scrapboxLines {b : Block} {blocks : List Block} (hcode : b.isCode = true)
    (h : IsCanonical (b :: blocks)) :
    (blocks.flatMap Block.scrapboxLines).takeWhile Scrapbox.continuesBlock = [] := by
  cases blocks with
  | nil => rfl
  | cons b' blocks =>
    obtain ⟨line, later, hlines, hline⟩ := Block.exists_of_endsCode h.2.2.1
      (h.2.1 hcode b' (by simp))
    rw [List.flatMap_cons, hlines, List.cons_append, List.takeWhile_cons_of_neg (by simp [hline])]

theorem Block.ofParts_code {language : Text} {body : List Text}
    (h : (code language body).IsCanonical) (number : Nat) :
    Scrapbox.Output.ofParts [.block number language body]
      = ⟨(code language body).markdownLines, []⟩ := by
  have hlines := markdownLines_code h
  obtain ⟨-, -, -, hne, hlast, -⟩ := h
  have hcode : Scrapbox.Part.code body = Text.ofLines body := Text.trimRight_of_getLast? hlast
  have hblank : (Text.ofLines body).isBlank = false :=
    Text.isBlank_eq_false_of_mem (List.getLast_mem hne)
      (hlast _ (List.getLast?_eq_some_getLast hne))
  ext1
  · simp only [Scrapbox.Output.ofParts, List.flatMap_cons, List.flatMap_nil, List.append_nil,
      Scrapbox.Part.markdownLines_block, hcode, hlines]
  · simp [Scrapbox.Output.ofParts, Scrapbox.Part.warnings, hblank]

/-- The parts of a canonical document in Scrapbox are its blocks. -/
theorem ofParts_scrapboxLines (default : Text) : ∀ {blocks : List Block}, IsCanonical blocks →
    ∀ number, Scrapbox.Output.ofParts
        (Scrapbox.Part.ofLines default number (blocks.flatMap Block.scrapboxLines))
      = ⟨blocks.flatMap Block.markdownLines, []⟩
  | [], _, number => by
    rw [List.flatMap_nil, Scrapbox.Part.ofLines_nil]
    rfl
  | b :: blocks, h, number => by
    cases hcode : b.isCode with
    | true =>
      obtain ⟨language, body, rfl⟩ := Block.exists_of_isCode hcode
      have htake := takeWhile_scrapboxLines hcode h
      have hdrop : (blocks.flatMap Block.scrapboxLines).dropWhile Scrapbox.continuesBlock
          = blocks.flatMap Block.scrapboxLines := by
        simpa [htake] using (List.takeWhile_append_dropWhile (p := Scrapbox.continuesBlock)
          (l := blocks.flatMap Block.scrapboxLines))
      rw [List.flatMap_cons, List.flatMap_cons, Block.scrapboxLines, List.cons_append,
        Scrapbox.Part.ofLines_block default number h.1.1 h.1.2.1, Scrapbox.Output.ofParts_cons,
        htake, hdrop, List.map_nil, List.append_nil, Block.ofParts_code h.1,
        ofParts_scrapboxLines default h.2.2]
      rfl
    | false =>
      obtain ⟨m, s, hpair, hm, hs⟩ := Block.exists_isLinePair h.1 hcode
      rw [List.flatMap_cons, List.flatMap_cons, hm, hs, List.singleton_append,
        Scrapbox.Part.ofLines_cons_of_none default number _ hpair.not_header,
        Scrapbox.Output.ofParts_cons, ofParts_scrapboxLines default h.2.2]
      ext1 <;> simp [Scrapbox.Output.ofParts, Scrapbox.Part.markdownLines,
        Scrapbox.Part.warnings, hpair.convertLine_eq]

theorem toScrapbox_of_isCanonical {blocks : List Block} (h : IsCanonical blocks) (default : Text) :
    Markdown.toScrapbox default (toMarkdown blocks) = ⟨toScrapbox blocks, []⟩ := by
  have hconvert := convertFrom_append default h [] (by simp)
  rwa [List.map_nil, List.nil_append, List.nil_append] at hconvert

theorem newline_notMem_scrapboxLines {b : Block} (h : b.IsCanonical) :
    ∀ line ∈ b.scrapboxLines, '\n' ∉ line := by
  cases hcode : b.isCode with
  | true =>
    obtain ⟨language, body, rfl⟩ := Block.exists_of_isCode hcode
    rw [← Block.scrapboxLines_code h []]
    exact CodeBlock.newline_notMem_scrapboxLines h.1 h.2.1 []
  | false =>
    obtain ⟨m, s, hpair, -, hs⟩ := Block.exists_isLinePair h hcode
    simpa [hs] using hpair.plain_scrapbox.2.2.1

theorem toMarkdown_of_isCanonical {blocks : List Block} (h : IsCanonical blocks) (default : Text) :
    Scrapbox.toMarkdown default (toScrapbox blocks) = ⟨(toMarkdown blocks).trimRight, []⟩ := by
  have hnewline : ∀ line ∈ blocks.flatMap Block.scrapboxLines, '\n' ∉ line := by
    intro line hline
    obtain ⟨b, hb, hline⟩ := List.mem_flatMap.1 hline
    exact newline_notMem_scrapboxLines (h.mem hb) line hline
  rw [Scrapbox.toMarkdown, Scrapbox.output_eq_ofParts]
  cases blocks with
  | nil =>
    rw [toScrapbox, List.flatMap_nil, Text.ofLines_nil, Text.lines_nil,
      Scrapbox.Part.ofLines_cons_of_none default 1 [] rfl, Scrapbox.Part.ofLines_nil]
    simp only [Scrapbox.Output.ofParts, List.flatMap_cons, Scrapbox.Part.markdownLines,
      Block.isLinePair_blank.convertLine_eq]
    rfl
  | cons b blocks =>
    rw [toScrapbox,
      Text.lines_ofLines hnewline (flatMap_ne_nil Block.scrapboxLines_ne_nil b blocks),
      ofParts_scrapboxLines default h]
    rfl

/-- Each form of a canonical document converts into the other without a warning, but for the blanks
at the end of the Markdown form, so there and back it is the same again. -/
theorem convert_of_isCanonical {blocks : List Block} (h : IsCanonical blocks) (default : Text) :
    Markdown.toScrapbox default (toMarkdown blocks) = ⟨toScrapbox blocks, []⟩
      ∧ Scrapbox.toMarkdown default (toScrapbox blocks) = ⟨(toMarkdown blocks).trimRight, []⟩
      ∧ convertDocument .markdownToScrapbox default true (toMarkdown blocks)
          = ⟨(toMarkdown blocks).trimRight, []⟩
      ∧ ((∀ c ∈ (toMarkdown blocks).getLast?, isBlank c = false) →
          convertDocument .scrapboxToMarkdown default true (toScrapbox blocks)
            = ⟨toScrapbox blocks, []⟩) := by
  have hthere := toScrapbox_of_isCanonical h default
  have hback := toMarkdown_of_isCanonical h default
  refine ⟨hthere, hback, ?_, fun hlast => ?_⟩
  · simp only [convertDocument, Direction.convert, Direction.reversed, hthere, hback, if_true,
      List.append_nil]
  · rw [Text.trimRight_of_getLast? hlast] at hback
    simp only [convertDocument, Direction.convert, Direction.reversed, hthere, hback, if_true,
      List.append_nil]

/-- Every kind of block, code that starts with a fence, and a code block right behind another. -/
theorem convert_of_isCanonical_sample :
    IsCanonical [.heading .level3 [], .item 1 ['-', ' '], .item 3 ['a'], .blank, .plain ['\x60'],
        .code ['c'] [CodeBlock.fence, [], [' ', '-', ' ', 'b']], .code ['_'] [['x']],
        .heading .level2 ['#']]
      ∧ Markdown.toScrapbox [] (toMarkdown [.heading .level3 [], .item 1 ['-', ' '], .item 3 ['a'],
          .blank, .plain ['\x60'], .code ['c'] [CodeBlock.fence, [], [' ', '-', ' ', 'b']],
          .code ['_'] [['x']], .heading .level2 ['#']])
        = ⟨toScrapbox [.heading .level3 [], .item 1 ['-', ' '], .item 3 ['a'],
            .blank, .plain ['\x60'], .code ['c'] [CodeBlock.fence, [], [' ', '-', ' ', 'b']],
            .code ['_'] [['x']], .heading .level2 ['#']], []⟩ :=
  have h : IsCanonical [.heading .level3 [], .item 1 ['-', ' '], .item 3 ['a'], .blank,
      .plain ['\x60'], .code ['c'] [CodeBlock.fence, [], [' ', '-', ' ', 'b']],
      .code ['_'] [['x']], .heading .level2 ['#']] := by decide +kernel
  ⟨h, (convert_of_isCanonical h []).1⟩

end Document

end Dialects
