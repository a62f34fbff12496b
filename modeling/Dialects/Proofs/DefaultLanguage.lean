import Dialects.Conversion
import Dialects.Proofs.Counts
import Dialects.Proofs.Parts

/-!
# What the default language reaches

As a function of the default language a converted text is one text with a gap for each block that
names no language, and nothing but that language in the gaps (`Text.HasGaps`). In Scrapbox the gaps
are in headers. In Markdown they are in opening fences, each with a closing fence behind it, so the
blanks that are trimmed at the end are none of the language's (`Scrapbox.trimRight_ofLines_block`).
-/

namespace Dialects

namespace Text

/-- What is written for a text is that text in all of so many gaps, and is the same around them
whatever the text. -/
def HasGaps (count : Nat) (write : Text → Text) : Prop :=
  ∃ pieces : List Text, pieces.length = count + 1 ∧ ∀ fill, write fill = fill.intercalate pieces

theorem exists_intercalate_append : ∀ {ps qs : List Text}, ps ≠ [] → qs ≠ [] →
    ∃ rs : List Text, rs.length + 1 = ps.length + qs.length
      ∧ ∀ fill : Text, fill.intercalate ps ++ fill.intercalate qs = fill.intercalate rs
  | [], _, h, _ => absurd rfl h
  | [p], [], _, h => absurd rfl h
  | [p], q :: qs, _, _ => by
    refine ⟨(p ++ q) :: qs, by simp; omega, fun fill => ?_⟩
    by_cases hqs : qs = []
    · simp [hqs]
    · simp [List.intercalate_cons_of_ne_nil hqs]
  | p :: p' :: ps, qs, _, h => by
    obtain ⟨rs, hlength, hrs⟩ := exists_intercalate_append (List.cons_ne_nil p' ps) h
    have hqs := List.length_pos_iff.2 h
    rw [List.length_cons] at hlength
    have hne : rs ≠ [] := List.length_pos_iff.1 (by omega)
    refine ⟨p :: rs, by simp only [List.length_cons]; omega, fun fill => ?_⟩
    rw [List.intercalate_cons_of_ne_nil (List.cons_ne_nil p' ps),
      List.intercalate_cons_of_ne_nil hne, List.append_assoc, hrs]

namespace HasGaps

variable {m n : Nat} {f g : Text → Text}

theorem const (s : Text) : HasGaps 0 fun _ => s := ⟨[s], rfl, fun fill => by simp⟩

theorem gap : HasGaps 1 fun fill => fill :=
  ⟨[[], []], rfl, fun fill => by simp [List.intercalate_cons_of_ne_nil]⟩

theorem append (hf : HasGaps m f) (hg : HasGaps n g) : HasGaps (m + n) fun s => f s ++ g s := by
  obtain ⟨ps, hps, hf⟩ := hf
  obtain ⟨qs, hqs, hg⟩ := hg
  obtain ⟨rs, hlength, hrs⟩ := exists_intercalate_append (List.ne_nil_of_length_eq_add_one hps)
    (List.ne_nil_of_length_eq_add_one hqs)
  exact ⟨rs, by omega, fun fill => (congrArg₂ (· ++ ·) (hf fill) (hg fill)).trans (hrs fill)⟩

theorem languageOr (name : Text) :
    HasGaps (if name = [] then 1 else 0) fun default => CodeBlock.languageOr default name := by
  simp only [CodeBlock.languageOr]
  split
  · exact gap
  · exact const name

/-- Without a gap there is nothing to fill. -/
theorem eq_of_zero (h : HasGaps 0 f) (s t : Text) : f s = f t := by
  obtain ⟨pieces, hlength, hf⟩ := h
  obtain ⟨p, rfl⟩ := List.length_eq_one_iff.1 hlength
  rw [hf, hf, List.intercalate_singleton, List.intercalate_singleton]

end HasGaps

end Text

open Text (HasGaps)

namespace Markdown

theorem hasGaps_toScrapbox (b : CodeBlock) :
    HasGaps (if b.language = [] then 1 else 0) fun default => b.toScrapbox default := by
  have hlines := ((HasGaps.const CodeBlock.header).append (.languageOr b.language)).append
    (.const ('\n' :: Text.ofLines (b.body.lines.map (' ' :: ·))))
  simpa only [CodeBlock.toScrapbox_eq, Nat.zero_add, Nat.add_zero] using hlines

theorem hasGaps_join : ∀ (found : List (CodeBlock × Text)) (lead : Text) (afterCode : Bool),
    HasGaps (found.countP fun p => p.1.language = []) fun default =>
      (convertStretches afterCode ⟨lead, found⟩).join (CodeBlock.toScrapbox default)
  | [], lead, afterCode => by
    simp only [convertStretches, List.map_nil, Split.join_nil]
    exact .const _
  | (b, next) :: found, lead, afterCode => by
    have h := (HasGaps.const (convertProse afterCode lead)).append
      ((hasGaps_toScrapbox b).append (hasGaps_join found next true))
    simpa only [convertStretches_cons, List.countP_cons, decide_eq_true_eq, Nat.zero_add,
      Nat.add_comm] using h

end Markdown

namespace Scrapbox

open CodeBlock (fence languageOr)

namespace Part

/-- The part with this language, if it is a block that names none. -/
def named (default : Text) : Part → Part
  | .prose line => .prose line
  | .block number language body => .block number (languageOr default language) body

/-- Is the part a block that names no language? -/
def isUnnamed : Part → Bool
  | .prose _ => false
  | .block _ language _ => language = []

theorem ofLines_eq_map_named (default : Text) (number : Nat) (lines : List Text) :
    ofLines default number lines = (ofLines [] number lines).map (named default) := by
  have hname : ∀ name : Text, languageOr [] name = name := by
    intro name
    unfold languageOr
    split
    · rename_i h
      exact h.symm
    · rfl
  induction number, lines using ofLines.induct with
  | case1 number => rw [ofLines_nil, ofLines_nil, List.map_nil]
  | case2 number line rest h ih =>
    rw [ofLines_cons_of_none default _ rest h, ofLines_cons_of_none [] _ rest h, ih, List.map_cons,
      named]
  | case3 number line rest name h ih =>
    rw [ofLines_cons_of_header default _ rest h, ofLines_cons_of_header [] _ rest h, ih,
      List.map_cons, hname, named]

/-- The warning about a block with nothing but blanks in it, for each default language. -/
def warningsFor : Part → List (Text → Warning)
  | .prose _ => []
  | .block number language body =>
    if (Text.ofLines body).isBlank then
      [fun default => .emptyBlock (languageOr default language) number]
    else []

theorem warnings_named (default : Text) (part : Part) :
    (part.named default).warnings = part.warningsFor.map (· default) := by
  cases part with
  | prose line => rfl
  | block number language body =>
    simp only [named, warnings, warningsFor]
    split <;> rfl

end Part

/-- Trimming stays behind the closing fence of a block. -/
theorem trimRight_ofLines_block (lines : List Text) (language : Text) (code more : List Text) :
    (Text.ofLines (lines ++ ((fence ++ language) :: code ++ [fence] ++ more))).trimRight
      = Text.ofLines (lines ++ [[]]) ++ fence ++ (language
        ++ ('\n' :: Text.ofLines (code ++ [[]]) ++ fence
          ++ (Text.ofLines ([] :: more)).trimRight)) := by
  have hne : (fence ++ language) :: code ++ [fence] ≠ [] := by simp
  have hblock : Text.ofLines ((fence ++ language) :: code ++ [fence])
      = fence ++ language ++ '\n' :: (Text.ofLines (code ++ [[]]) ++ fence) := by
    rw [List.cons_append, Text.ofLines_cons (by simp),
      Text.ofLines_append_of_ne_nil code (List.cons_ne_nil fence []), Text.ofLines_singleton]
  have hlast : ∀ c ∈ (Text.ofLines (lines ++ [[]]) ++ fence ++ language
      ++ '\n' :: (Text.ofLines (code ++ [[]]) ++ fence)).getLast?, isBlank c = false := by
    intro c hc
    rw [List.append_cons, ← List.append_assoc, List.getLast?_append] at hc
    obtain rfl : '\x60' = c := Option.some.inj hc
    decide
  have htrim := Text.trimRight_append_of_getLast? hlast (Text.ofLines ([] :: more))
  rw [Text.ofLines_append_of_ne_nil lines (List.append_ne_nil_of_left_ne_nil hne more),
    Text.ofLines_append_eq_append hne, hblock]
  simpa only [List.append_assoc, List.cons_append] using htrim

/-- Lines of prose and the parts behind them: a line joins the lines before it, and a block ends
them. -/
theorem hasGaps_trimRight : ∀ (parts : List Part) (lines : List Text),
    HasGaps (parts.countP Part.isUnnamed) fun default =>
      (Text.ofLines
        (lines ++ (parts.map (Part.named default)).flatMap Part.markdownLines)).trimRight
  | [], lines => .const (Text.ofLines (lines ++ [])).trimRight
  | .prose line :: parts, lines => by
    have ih := hasGaps_trimRight parts (lines ++ [convertLine line])
    simp only [List.append_assoc] at ih
    exact ih
  | .block number language body :: parts, lines => by
    have ih := hasGaps_trimRight parts [[]]
    have hcount : (Part.block number language body :: parts).countP Part.isUnnamed
        = 0 + ((if language = [] then 1 else 0) + (0 + parts.countP Part.isUnnamed)) := by
      simp only [List.countP_cons, Part.isUnnamed, decide_eq_true_eq]
      omega
    simp only [List.map_cons, Part.named, List.flatMap_cons, Part.markdownLines,
      trimRight_ofLines_block, hcount]
    exact (HasGaps.const _).append
      ((HasGaps.languageOr language).append ((HasGaps.const _).append ih))

theorem toMarkdown_eq_map_named (default s : Text) :
    toMarkdown default s
      = ⟨(Text.ofLines (((Part.ofLines [] 1 s.lines).map (Part.named default)).flatMap
            Part.markdownLines)).trimRight,
          ((Part.ofLines [] 1 s.lines).map (Part.named default)).flatMap Part.warnings⟩ := by
  rw [toMarkdown, output_eq_ofParts, Part.ofLines_eq_map_named default]
  rfl

end Scrapbox

namespace Direction

open Scrapbox (Part)

/-- The number of code blocks of the text that name no language. -/
def unnamedBlocks : Direction → Text → Nat
  | .markdownToScrapbox, s =>
    (CodeBlock.markdown.split s).found.countP fun p => p.1.language = []
  | .scrapboxToMarkdown, s => (Part.ofLines [] 1 s.lines).countP Part.isUnnamed

/-- At this line of the text there starts a code block that names no language and has nothing but
blanks in it. Such a block has no form in Markdown. -/
def HasEmptyUnnamed : Direction → Text → Nat → Prop
  | .markdownToScrapbox, _, _ => False
  | .scrapboxToMarkdown, s, number => ∃ body, .block number [] body ∈ Part.ofLines [] 1 s.lines
    ∧ (Text.ofLines body).isBlank = true

theorem hasGaps_convert (d : Direction) (s : Text) :
    HasGaps (d.unnamedBlocks s) fun default => (d.convert default s).text := by
  cases d with
  | markdownToScrapbox =>
    simp only [convert, Markdown.text_toScrapbox_eq_join]
    exact Markdown.hasGaps_join _ _ false
  | scrapboxToMarkdown =>
    simp only [convert, Scrapbox.toMarkdown_eq_map_named]
    exact Scrapbox.hasGaps_trimRight _ []

theorem exists_warnings_convert (d : Direction) (s : Text) :
    ∃ warnings : List (Text → Warning),
      (∀ default, (d.convert default s).warnings = warnings.map (· default))
        ∧ ∀ w ∈ warnings, (∃ warning, w = fun _ => warning)
          ∨ ∃ number, d.HasEmptyUnnamed s number ∧ w = fun default => .emptyBlock default number := by
  cases d with
  | markdownToScrapbox =>
    refine ⟨(Markdown.toScrapbox [] s).warnings.map fun warning _ => warning, fun default => ?_,
      fun w hw => ?_⟩
    · rw [List.map_map]
      exact (List.map_id _).symm
    · obtain ⟨warning, -, rfl⟩ := List.mem_map.1 hw
      exact .inl ⟨warning, rfl⟩
  | scrapboxToMarkdown =>
    refine ⟨(Part.ofLines [] 1 s.lines).flatMap Part.warningsFor, fun default => ?_, fun w hw => ?_⟩
    · simp only [convert, Scrapbox.toMarkdown_eq_map_named, List.flatMap_map, List.map_flatMap,
        Part.warnings_named]
    · obtain ⟨part, hpart, hw⟩ := List.mem_flatMap.1 hw
      cases part with
      | prose line => cases hw
      | block number language body =>
        simp only [Part.warningsFor, List.mem_ite_nil_right, List.mem_singleton] at hw
        obtain ⟨hblank, rfl⟩ := hw
        by_cases hname : language = []
        · subst hname
          exact .inr ⟨number, ⟨body, hpart, hblank⟩, by simp only [CodeBlock.languageOr, if_true]⟩
        · exact .inl ⟨.emptyBlock language number, by simp only [CodeBlock.languageOr, if_neg hname]⟩

theorem unnamedBlocks_pos {d : Direction} {s : Text} {number : Nat}
    (h : d.HasEmptyUnnamed s number) : 0 < d.unnamedBlocks s := by
  cases d with
  | markdownToScrapbox => exact h.elim
  | scrapboxToMarkdown =>
    obtain ⟨body, hmem, -⟩ := h
    exact List.countP_pos_iff.2 ⟨_, hmem, rfl⟩

/-- The default language stands in the converted text once for each block that names none, and what
stands around it is the same for all of them. A warning names it where the block it is about has
nothing but blanks in it, and no other warning depends on it. So it makes no difference to a text
whose blocks all name their language. -/
theorem convert_eq_intercalate (d : Direction) (s : Text) :
    (∃ pieces : List Text, pieces.length = d.unnamedBlocks s + 1
        ∧ ∀ default, (d.convert default s).text = default.intercalate pieces)
      ∧ (∃ warnings : List (Text → Warning),
        (∀ default, (d.convert default s).warnings = warnings.map (· default))
          ∧ ∀ w ∈ warnings, (∃ warning, w = fun _ => warning)
            ∨ ∃ number, d.HasEmptyUnnamed s number ∧ w = fun default => .emptyBlock default number)
      ∧ (d.unnamedBlocks s = 0 →
        ∀ default default', d.convert default s = d.convert default' s) := by
  have htext := d.hasGaps_convert s
  obtain ⟨warnings, hwarnings, hforms⟩ := d.exists_warnings_convert s
  refine ⟨htext, ⟨warnings, hwarnings, hforms⟩, fun hnone default default' => ?_⟩
  rw [hnone] at htext
  have hsame : warnings.map (· default) = warnings.map (· default') := by
    refine List.map_congr_left fun w hw => ?_
    rcases hforms w hw with ⟨warning, rfl⟩ | ⟨number, hempty, -⟩
    · rfl
    · have hpos := unnamedBlocks_pos hempty
      omega
  calc d.convert default s
      = ⟨(d.convert default s).text, (d.convert default s).warnings⟩ := rfl
    _ = ⟨(d.convert default' s).text, (d.convert default' s).warnings⟩ := by
      rw [htext.eq_of_zero default default', hwarnings, hwarnings, hsame]

/-- Two blocks that name their language, the second of them empty, and two that do not. -/
theorem convert_eq_intercalate_headers :
    unnamedBlocks .scrapboxToMarkdown "code:py\n x\ncode: c \n ".toList = 0
      ∧ convert .scrapboxToMarkdown [] "code:py\n x\ncode: c \n ".toList
        = convert .scrapboxToMarkdown [' ', '\n'] "code:py\n x\ncode: c \n ".toList
      ∧ unnamedBlocks .scrapboxToMarkdown "code:\n x\ncode: \n ".toList = 2
      ∧ ∃ pieces : List Text, pieces.length = 3 ∧ ∀ default,
        (convert .scrapboxToMarkdown default "code:\n x\ncode: \n ".toList).text
          = default.intercalate pieces := by
  have hnamed : unnamedBlocks .scrapboxToMarkdown "code:py\n x\ncode: c \n ".toList = 0 := by
    decide +kernel
  have hunnamed : unnamedBlocks .scrapboxToMarkdown "code:\n x\ncode: \n ".toList = 2 := by
    decide +kernel
  obtain ⟨pieces, hlength, htext⟩ :=
    (convert_eq_intercalate .scrapboxToMarkdown "code:\n x\ncode: \n ".toList).1
  exact ⟨hnamed, (convert_eq_intercalate .scrapboxToMarkdown _).2.2 hnamed [] [' ', '\n'], hunnamed,
    pieces, by rw [hlength, hunnamed], htext⟩

end Direction

end Dialects
