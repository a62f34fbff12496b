import Dialects.Proofs.FenceCount
import Dialects.Proofs.LineByLine

/-!
# Fenced blocks are opaque

The prose before a block, the block and the text behind it are converted each on its own
(`Markdown.convertFrom_block`). The line that a block ends on is not restructured, but nothing but
its line feed is left of it when the closing fence has a line to itself, so the text behind that
line feed is converted as if it stood alone (`Markdown.convertFrom_true_newline`).
-/

namespace Dialects

namespace Markdown

open CodeBlock

theorem convertProse_true_cons_newline (s : Text) :
    convertProse true ('\n' :: s) = '\n' :: convertProse false s := by
  have hinline : InlineRule.allToScrapbox ('\n' :: s) = '\n' :: InlineRule.allToScrapbox s :=
    @InlineRule.allToScrapbox_append ['\n'] (by decide) (by decide) s
  rw [convertProse_true, hinline, convertProse_false]
  exact structureLaterLines_append_newline [] _

@[simp] theorem convertProse_nil (afterCode : Bool) : convertProse afterCode [] = [] := by
  have hinline : InlineRule.allToScrapbox [] = [] :=
    InlineRule.allToScrapbox_of_notMem List.not_mem_nil List.not_mem_nil
  cases afterCode with
  | false =>
    rw [convertProse_false, hinline, structureLines, Text.lines_nil]
    rfl
  | true =>
    rw [convertProse_true, hinline, structureLaterLines, Text.lines_nil]
    rfl

theorem fenceWarnings_congr {stretches stretches' : List Text}
    (h : fenceCount stretches = fenceCount stretches') :
    fenceWarnings stretches = fenceWarnings stretches' := by
  rw [fenceWarnings, h, fenceWarnings]

theorem fenceCount_cons_newline (s : Text) (stretches : List Text) :
    fenceCount (('\n' :: s) :: stretches) = fenceCount (s :: stretches) := by
  rw [fenceCount, fenceCount, countFences_cons_of_ne (by decide)]

theorem split_cons_newline (s : Text) :
    markdown.split ('\n' :: s) = ⟨'\n' :: (markdown.split s).lead, (markdown.split s).found⟩ :=
  Pattern.split_of_none (readMarkdown?_eq_none (by simp [fence]))

/-- The text in Scrapbox; `afterCode` says that a code block stands before it. -/
def convertFrom (default : Text) (afterCode : Bool) (s : Text) : Converted :=
  let t := markdown.split s
  { text := convertProse afterCode t.lead
      ++ t.found.flatMap fun (block, prose) => block.toScrapbox default ++ convertProse true prose
    warnings := fenceWarnings t.stretches }

theorem toScrapbox_eq_convertFrom (default s : Text) :
    toScrapbox default s = convertFrom default false s := rfl

theorem convertFrom_of_no_fence (default : Text) (afterCode : Bool) {s : Text}
    (h : ¬ fence <:+: s) : convertFrom default afterCode s = ⟨convertProse afterCode s, []⟩ := by
  simp only [convertFrom, split_of_no_fence h, Split.stretches, fenceWarnings, fenceCount,
    countFences_eq_zero_iff.2 h, List.flatMap_nil, List.append_nil, List.map_nil]

/-- A block is converted apart from the prose before it and the text behind it. -/
theorem convertFrom_block (default : Text) (afterCode : Bool) {prose : Text} {b : CodeBlock}
    (hp : ¬ fence <:+: prose) (hb : b.IsFenceable) (rest : Text) :
    convertFrom default afterCode (prose ++ (b.toMarkdown ++ rest))
      = ⟨convertProse afterCode prose ++ b.toScrapbox default
            ++ (convertFrom default true rest).text,
          (convertFrom default true rest).warnings⟩ := by
  have hcount : fenceCount (prose :: (markdown.split rest).stretches)
      = fenceCount (markdown.split rest).stretches := by
    rw [fenceCount, countFences_eq_zero_iff.2 hp, Nat.zero_add]
  simp only [convertFrom, split_block hp hb, Converted.mk.injEq]
  constructor
  · simp only [List.flatMap_cons, List.append_assoc]
  · exact fenceWarnings_congr hcount

theorem convertFrom_true_newline (default s : Text) :
    convertFrom default true ('\n' :: s)
      = ⟨'\n' :: (toScrapbox default s).text, (toScrapbox default s).warnings⟩ := by
  simp only [convertFrom, toScrapbox, split_cons_newline, Split.stretches,
    convertProse_true_cons_newline, fenceWarnings, fenceCount_cons_newline, List.cons_append]

@[simp] theorem convertFrom_nil (default : Text) (afterCode : Bool) :
    convertFrom default afterCode [] = ⟨[], []⟩ := by
  rw [convertFrom_of_no_fence default afterCode (by decide), convertProse_nil]

/-- No rule for prose sees the code of a block, and none reaches across one: in front of the block
and behind the line it ends on, the text is converted as if it stood alone. -/
theorem toScrapbox_append_block {prose : Text} {b : CodeBlock} (hp : ¬ fence <:+: prose)
    (hb : b.IsFenceable) (default rest : Text) :
    toScrapbox default (prose ++ b.toMarkdown ++ '\n' :: rest)
      = ⟨(toScrapbox default prose).text ++ b.toScrapbox default
            ++ '\n' :: (toScrapbox default rest).text,
          (toScrapbox default rest).warnings⟩ := by
  rw [List.append_assoc, toScrapbox_eq_convertFrom, convertFrom_block default false hp hb,
    convertFrom_true_newline, toScrapbox_eq_convertFrom default prose,
    convertFrom_of_no_fence default false hp]

/-- Backticks right before the block, marks of every kind in it, and a fence that opens nothing
behind it. -/
theorem toScrapbox_append_block_backticks :
    (¬ fence <:+: "a ``".toList)
      ∧ CodeBlock.IsFenceable ⟨[], "```\n\n- [x](y)\n**z** ``".toList⟩
      ∧ toScrapbox usualLanguage ("a ``".toList
            ++ CodeBlock.toMarkdown ⟨[], "```\n\n- [x](y)\n**z** ``".toList⟩
            ++ '\n' :: "- b ```".toList)
          = ⟨(toScrapbox usualLanguage "a ``".toList).text
              ++ CodeBlock.toScrapbox usualLanguage ⟨[], "```\n\n- [x](y)\n**z** ``".toList⟩
              ++ '\n' :: (toScrapbox usualLanguage "- b ```".toList).text,
            (toScrapbox usualLanguage "- b ```".toList).warnings⟩ :=
  have hp : ¬ fence <:+: "a ``".toList := by decide
  have hb : CodeBlock.IsFenceable ⟨[], "```\n\n- [x](y)\n**z** ``".toList⟩ :=
    ⟨by decide, by decide, by decide +kernel⟩
  ⟨hp, hb, toScrapbox_append_block hp hb usualLanguage "- b ```".toList⟩

end Markdown

end Dialects
