import Dialects.Proofs.LineForms
import Dialects.Proofs.Occurrence
import Dialects.Proofs.Seams

/-!
# Blanks at the end of a Scrapbox text

Blanks behind a text are lines of their own, which are converted before the end of the result is
trimmed. The block that is open there takes those that continue it, and its code ends where it did
(`Scrapbox.Output.ofParts_block_append`). Any other one is blank in Markdown too, unless it starts
with a space: then it is an item, and its mark is not trimmed (`Scrapbox.isBlank_convertLine_iff`).
-/

namespace Dialects

theorem ListItem.dash_mem_markdownLead (level : Nat) : '-' ∈ markdownLead level := by
  rcases markdownLead_cases level with hmark | ⟨hlead, -, -⟩
  · have hmarks : ∀ p ∈ marks, '-' ∈ p.1 := by decide
    exact hmarks _ hmark
  · rw [hlead]
    simp

namespace Scrapbox

theorem isBlank_convertLine_iff {line : Text} (h : line.isBlank = true) :
    (convertLine line).isBlank = true ↔ line.head? ≠ some ' ' := by
  have hnot : ∀ c, Dialects.isBlank c = false → c ∉ line := by
    intro c hc hmem
    rw [Text.isBlank_eq_false_of_mem hmem hc] at h
    cases h
  rw [convertLine, InlineRule.allToMarkdown_of_notMem (hnot '[' (by decide))]
  rcases structureLine_cases line with ⟨hd, t, rfl⟩ | ⟨level, t, hpos, ht, rfl⟩ | ⟨hh, hi⟩
  · cases hd with
    | level3 => exact absurd (by simp [Heading.scrapboxMark]) (hnot '\u2b1b' (by decide))
    | level2 => exact absurd (by simp [Heading.scrapboxMark]) (hnot '#' (by decide))
  · have hdash : '-' ∈ ListItem.markdownLead level ++ t :=
      List.mem_append_left t (ListItem.dash_mem_markdownLead level)
    rw [structureLine_item hpos ht, Text.isBlank_eq_false_of_mem hdash (by decide),
      ← ListItem.scrapboxLevel_eq_zero_iff, ListItem.scrapboxLevel_append level ht]
    exact iff_of_false Bool.false_ne_true (by omega)
  · rw [structureLine_plain hh hi]
    exact iff_of_true h hi

section Blank

variable {lines : List Text} (h : ∀ line ∈ lines, line.isBlank = true)
include h

theorem Part.ofLines_of_isBlank (default : Text) (number : Nat) :
    ofLines default number lines = lines.map prose := by
  induction lines generalizing number with
  | nil => rw [ofLines_nil, List.map_nil]
  | cons line lines ih =>
    rw [List.forall_mem_cons] at h
    have hnone : Text.after? CodeBlock.header line = none := by
      rw [Option.eq_none_iff_forall_ne_some]
      intro name hname
      have hmem : 'c' ∈ line := by
        rw [Text.after?_eq_some_iff.1 hname]
        exact List.mem_cons_self
      rw [Text.isBlank_eq_false_of_mem hmem (by decide)] at h
      cases h.1
    rw [ofLines_cons_of_none default number lines hnone, ih h.2, List.map_cons]

theorem Output.ofParts_block_append (number : Nat) (language : Text) (body : List Text) :
    ofParts [.block number language (body ++ lines)] = ofParts [.block number language body] := by
  have hcode : Part.code (body ++ lines) = Part.code body := Text.trimRight_ofLines_append_eq_iff.2 h
  have hblank : (Text.ofLines (body ++ lines)).isBlank = (Text.ofLines body).isBlank := by
    rw [Text.isBlank_ofLines, Text.isBlank_ofLines, List.all_append, List.all_eq_true.2 h,
      Bool.and_true]
  simp only [ofParts, List.flatMap_cons, List.flatMap_nil, Part.markdownLines_block, hcode,
    Part.warnings, hblank]

end Blank

/-- The lines that are left when the open block, if there is one, has taken those that continue
it. -/
def State.leftOver (st : State) (lines : List Text) : List Text :=
  if st.mode = .insideCodeBlock then lines.dropWhile continuesBlock else lines

/-- Blank lines put out what the end of the text does, and behind it themselves as prose where the
open block does not take them. -/
theorem scan_of_isBlank (default : Text) (number : Nat) {c : Cursor} (hc : c.state.IsClear)
    {lines : List Text} (h : ∀ line ∈ lines, line.isBlank = true) :
    scan default number c lines
      = c.finish ++ .ofParts ((c.state.leftOver lines).map .prose) := by
  obtain ⟨⟨mode, language, body⟩, openedAt⟩ := c
  cases mode with
  | outside =>
    rw [show (⟨.outside, language, body⟩ : State) = {} from hc rfl, scan_outside,
      Part.ofLines_of_isBlank h]
    rfl
  | insideCodeBlock =>
    have htaken : ∀ code ∈ (lines.takeWhile continuesBlock).map (·.drop 1),
        Text.isBlank code = true := by
      intro code hcode
      obtain ⟨line, hline, rfl⟩ := List.mem_map.1 hcode
      have hblank := List.all_eq_true.1 (h line (List.takeWhile_subset _ hline))
      exact List.all_eq_true.2 fun c hc => hblank c (List.mem_of_mem_drop hc)
    have hleft : ∀ line ∈ lines.dropWhile continuesBlock, line.isBlank = true := fun line hline =>
      h line ((List.dropWhile_sublist _).subset hline)
    rw [scan_inside, Output.ofParts_block_append htaken, scan_outside,
      Part.ofLines_of_isBlank hleft, ← output_close]
    rfl

theorem output_append_of_isBlank {w : Text} (hw : w.isBlank = true) (default s : Text) :
    output default (s ++ '\n' :: w)
      = output default s
        ++ .ofParts (((State.run default {} s.lines).leftOver w.lines).map .prose) := by
  obtain ⟨out, c, hc, hmore⟩ := exists_scan_append default s.lines {} 1
  have hclear : c.state.IsClear := hc ▸ State.isClear_empty.run default s.lines
  have hs : output default s = out ++ c.finish := by
    have hnil := hmore []
    rwa [List.append_nil] at hnil
  rw [hs, output, Text.lines_append_newline, hmore,
    scan_of_isBlank default _ hclear fun line => Text.isBlank_of_mem_lines hw, hc,
    Output.append_assoc]

theorem State.leftOver_sublist (st : State) (lines : List Text) :
    List.Sublist (st.leftOver lines) lines := by
  rw [leftOver]
  split
  · exact List.dropWhile_sublist _
  · exact List.Sublist.refl lines

theorem trimRight_ofLines_append_prose_iff (ls : List Text) {lines : List Text}
    (h : ∀ line ∈ lines, line.isBlank = true) :
    (Text.ofLines (ls ++ (Output.ofParts (lines.map .prose)).lines)).trimRight
        = (Text.ofLines ls).trimRight
      ↔ ∀ line ∈ lines, line.head? ≠ some ' ' := by
  have hlines : (Output.ofParts (lines.map .prose)).lines = lines.map convertLine := by
    simp only [Output.ofParts, List.flatMap_map, Part.markdownLines]
    exact List.map_eq_flatMap.symm
  rw [Text.trimRight_ofLines_append_eq_iff, hlines, List.forall_mem_map]
  exact forall₂_congr fun line hline => isBlank_convertLine_iff (h line hline)

/-- Blanks behind a text leave its conversion as it is exactly if none of their lines that the last
code block does not take starts with a space. Blanks alone come to nothing exactly if none of their
lines starts with one. They never give a warning. -/
theorem toMarkdown_append_of_isBlank {w : Text} (hw : w.isBlank = true) (default s : Text) :
    ((toMarkdown default (s ++ '\n' :: w)).text = (toMarkdown default s).text
        ↔ ∀ line ∈ (State.run default {} s.lines).leftOver w.lines, line.head? ≠ some ' ')
      ∧ (toMarkdown default (s ++ '\n' :: w)).warnings = (toMarkdown default s).warnings
      ∧ ((toMarkdown default w).text = [] ↔ ∀ line ∈ w.lines, line.head? ≠ some ' ') := by
  have hlines : ∀ line ∈ w.lines, line.isBlank = true := fun line => Text.isBlank_of_mem_lines hw
  have hleft : ∀ line ∈ (State.run default {} s.lines).leftOver w.lines, line.isBlank = true :=
    fun line hline => hlines line ((State.leftOver_sublist _ _).subset hline)
  have halone : output default w = .ofParts (w.lines.map .prose) := by
    rw [output, scan_of_isBlank default 1 State.isClear_empty hlines]
    rfl
  refine ⟨?_, ?_, ?_⟩
  · simp only [toMarkdown, output_append_of_isBlank hw, Output.lines_append]
    exact trimRight_ofLines_append_prose_iff _ hleft
  · simp [toMarkdown, output_append_of_isBlank hw, Output.ofParts, List.flatMap_map, Part.warnings]
  · simp only [toMarkdown, halone]
    exact trimRight_ofLines_append_prose_iff [] hlines

/-- A space behind a line is an item of its own, but one more line of code behind a block. -/
theorem toMarkdown_append_of_isBlank_space :
    (toMarkdown ['t'] "x\n ".toList).text ≠ (toMarkdown ['t'] "x".toList).text
      ∧ (toMarkdown ['t'] "code:js\n a\n ".toList).text
        = (toMarkdown ['t'] "code:js\n a".toList).text
      ∧ (toMarkdown ['t'] " ".toList).text ≠ []
      ∧ (toMarkdown ['t'] "\t \n\u3000".toList).text = [] := by
  have hspace : Text.isBlank [' '] = true := by decide
  have hblank : Text.isBlank "\t \n\u3000".toList = true := by decide
  obtain ⟨hprose, -, halone⟩ := toMarkdown_append_of_isBlank hspace ['t'] "x".toList
  obtain ⟨hcode, -, -⟩ := toMarkdown_append_of_isBlank hspace ['t'] "code:js\n a".toList
  obtain ⟨-, -, hnone⟩ := toMarkdown_append_of_isBlank hblank ['t'] []
  refine ⟨fun h => ?_, hcode.2 (by decide +kernel), fun h => ?_, hnone.2 (by decide +kernel)⟩
  · exact absurd (hprose.1 h) (by decide +kernel)
  · exact absurd (halone.1 h) (by decide +kernel)

end Scrapbox

end Dialects
