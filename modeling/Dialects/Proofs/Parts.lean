import Dialects.Proofs.Trim
import Dialects.Scrapbox.Conversion
import Dialects.Scrapbox.Part

/-!
# A scan puts out the parts of the text

An open block takes the lines that continue it and closes in front of the first that does not, or
at the end of the text, whichever comes first (`scan_inside`). So a scan that starts with no block
open puts out the lines and the warnings of the parts one after the other (`scan_outside`), and
the number of a block's header is all it remembers of what came before.
-/

namespace Dialects

namespace Scrapbox

attribute [ext] Output

namespace Output

@[simp] theorem lines_append (a b : Output) : (a ++ b).lines = a.lines ++ b.lines := rfl

@[simp] theorem warnings_append (a b : Output) : (a ++ b).warnings = a.warnings ++ b.warnings := rfl

theorem append_assoc (a b c : Output) : a ++ b ++ c = a ++ (b ++ c) := by
  ext1 <;> simp

@[simp] theorem empty_append (a : Output) : ({} : Output) ++ a = a := rfl

@[simp] theorem append_empty (a : Output) : a ++ ({} : Output) = a := by
  ext1 <;> simp

/-- What these parts put out. -/
def ofParts (parts : List Part) : Output :=
  ⟨parts.flatMap Part.markdownLines, parts.flatMap Part.warnings⟩

theorem ofParts_cons (part : Part) (parts : List Part) :
    ofParts (part :: parts) = ofParts [part] ++ ofParts parts := by
  ext1 <;> simp [ofParts]

end Output

namespace Part

variable (default : Text) (number : Nat) {line : Text} (rest : List Text)

@[simp] theorem ofLines_nil : ofLines default number [] = [] := by
  rw [ofLines]

theorem ofLines_cons_of_none (h : Text.after? CodeBlock.header line = none) :
    ofLines default number (line :: rest) = .prose line :: ofLines default (number + 1) rest := by
  rw [ofLines]
  simp only [h]

theorem ofLines_cons_of_header {name : Text}
    (h : Text.after? CodeBlock.header line = some name) :
    ofLines default number (line :: rest)
      = .block number (CodeBlock.languageOr default name.trim)
            ((rest.takeWhile continuesBlock).map (·.drop 1))
        :: ofLines default (number + 1 + (rest.takeWhile continuesBlock).length)
            (rest.dropWhile continuesBlock) := by
  rw [ofLines]
  simp only [h]

theorem takeWhile_indent_append (body lines : List Text) :
    (body.map (' ' :: ·) ++ lines).takeWhile continuesBlock
      = body.map (' ' :: ·) ++ lines.takeWhile continuesBlock := by
  refine List.takeWhile_append_of_pos fun line hline => ?_
  obtain ⟨code, -, rfl⟩ := List.mem_map.1 hline
  rfl

theorem dropWhile_indent_append (body lines : List Text) :
    (body.map (' ' :: ·) ++ lines).dropWhile continuesBlock = lines.dropWhile continuesBlock := by
  refine List.dropWhile_append_of_pos fun line hline => ?_
  obtain ⟨code, -, rfl⟩ := List.mem_map.1 hline
  rfl

/-- A block that names its language in word characters goes on, behind its own code, as long as
lines continue it. -/
theorem ofLines_block {language : Text} (hne : language ≠ [])
    (hword : ∀ c ∈ language, isWord c = true) (body lines : List Text) :
    ofLines default number ((CodeBlock.header ++ language) :: (body.map (' ' :: ·) ++ lines))
      = .block number language (body ++ (lines.takeWhile continuesBlock).map (·.drop 1))
        :: ofLines default (number + 1 + (body.length + (lines.takeWhile continuesBlock).length))
            (lines.dropWhile continuesBlock) := by
  rw [ofLines_cons_of_header default number _ (Text.after?_append _ _), Text.trim_of_isWord hword,
    CodeBlock.languageOr, if_neg hne, takeWhile_indent_append, dropWhile_indent_append,
    List.map_append, List.map_map, List.length_append, List.length_map]
  simp [Function.comp_def]

/-- A block's lines are those of its code without the blanks at its end. -/
theorem markdownLines_block (language : Text) (body : List Text) :
    (block number language body).markdownLines
      = CodeBlock.markdownLines ⟨language, code body⟩ := by
  simp only [markdownLines, CodeBlock.markdownLines]

end Part

theorem bodyLine?_of_continuesBlock :
    ∀ {line : Text}, continuesBlock line = true → bodyLine? line = some (line.drop 1)
  | [], _ => rfl
  | c :: line, h => by
    simp only [continuesBlock, List.head?_cons, Option.all_some, decide_eq_true_eq] at h
    subst h
    rfl

theorem bodyLine?_eq_none :
    ∀ {line : Text}, continuesBlock line = false → bodyLine? line = none
  | [], h => by simp [continuesBlock] at h
  | c :: line, h => by
    simp only [continuesBlock, List.head?_cons, Option.all_some, decide_eq_false_iff_not] at h
    unfold bodyLine?
    split <;> simp_all

theorem steps_of_again_eq_false {default line : Text} {st : State}
    (h : (step default st line).again = false) :
    steps default st line = [step default st line] := by
  rw [steps]
  simp [h]

/-- A line that closes a block is then taken as if there had been none. -/
theorem steps_of_again {default line : Text} {st : State}
    (h : (step default st line).again = true) :
    steps default st line = step default st line :: steps default {} line := by
  rw [steps]
  simp only [h, ↓reduceDIte]
  rw [(mode_of_again h).2]

section Inside

variable (default language : Text) (body : List Text)

theorem step_inside_of_continuesBlock {line : Text} (h : continuesBlock line = true) :
    step default ⟨.insideCodeBlock, language, body⟩ line
      = ⟨⟨.insideCodeBlock, language, body ++ [line.drop 1]⟩, [], false⟩ := by
  simp [step, bodyLine?_of_continuesBlock h]

theorem step_inside_of_not_continuesBlock {line : Text} (h : continuesBlock line = false) :
    step default ⟨.insideCodeBlock, language, body⟩ line
      = ⟨{}, (State.block ⟨.insideCodeBlock, language, body⟩).markdownLines, true⟩ := by
  simp [step, bodyLine?_eq_none h]

theorem steps_inside_of_continuesBlock {line : Text} (h : continuesBlock line = true) :
    steps default ⟨.insideCodeBlock, language, body⟩ line
      = [⟨⟨.insideCodeBlock, language, body ++ [line.drop 1]⟩, [], false⟩] := by
  have hstep := step_inside_of_continuesBlock default language body h
  rw [steps_of_again_eq_false (by rw [hstep]), hstep]

theorem steps_inside_of_not_continuesBlock {line : Text} (h : continuesBlock line = false) :
    steps default ⟨.insideCodeBlock, language, body⟩ line
      = ⟨{}, (State.block ⟨.insideCodeBlock, language, body⟩).markdownLines, true⟩
        :: steps default {} line := by
  have hstep := step_inside_of_not_continuesBlock default language body h
  rw [steps_of_again (by rw [hstep]), hstep]

/-- A block that closes puts out what its part does. -/
theorem output_close (openedAt : Nat) :
    (⟨(State.block ⟨.insideCodeBlock, language, body⟩).markdownLines,
        Cursor.check ⟨⟨.insideCodeBlock, language, body⟩, openedAt⟩⟩ : Output)
      = .ofParts [.block openedAt language body] := by
  ext1
  · simp only [Output.ofParts, Part.markdownLines_block, Part.code, State.block,
      List.flatMap_cons, List.flatMap_nil, List.append_nil]
  · simp only [Output.ofParts, Part.warnings, Cursor.check, Text.isBlank_ofLines,
      List.flatMap_cons, List.flatMap_nil, List.append_nil]

/-- An open block takes the lines that continue it, and the rest is scanned with no block open. -/
theorem scan_inside (number openedAt : Nat) (lines : List Text) :
    scan default number ⟨⟨.insideCodeBlock, language, body⟩, openedAt⟩ lines
      = .ofParts [.block openedAt language
            (body ++ (lines.takeWhile continuesBlock).map (·.drop 1))]
        ++ scan default (number + (lines.takeWhile continuesBlock).length) ⟨{}, openedAt⟩
            (lines.dropWhile continuesBlock) := by
  induction lines generalizing number body with
  | nil =>
    rw [List.takeWhile_nil, List.map_nil, List.append_nil, ← output_close]
    exact (Output.append_empty _).symm
  | cons line lines ih =>
    cases h : continuesBlock line with
    | true =>
      have hrun : Cursor.run number ⟨⟨.insideCodeBlock, language, body⟩, openedAt⟩
          (steps default ⟨.insideCodeBlock, language, body⟩ line)
            = (⟨⟨.insideCodeBlock, language, body ++ [line.drop 1]⟩, openedAt⟩, {}) := by
        rw [steps_inside_of_continuesBlock default language body h]
        rfl
      rw [scan, hrun]
      simp only [Output.empty_append]
      rw [ih, List.takeWhile_cons_of_pos h, List.dropWhile_cons_of_pos h, List.map_cons,
        List.append_assoc, List.length_cons, Nat.add_right_comm, Nat.add_assoc]
      rfl
    | false =>
      have hnot : ¬ continuesBlock line = true := by simp [h]
      rw [List.takeWhile_cons_of_neg hnot, List.dropWhile_cons_of_neg hnot, List.map_nil,
        List.append_nil, ← output_close, scan,
        steps_inside_of_not_continuesBlock default language body h]
      exact Output.append_assoc _ _ _

end Inside

section Outside

variable (default : Text)

theorem step_outside_of_header {st : State} (hst : st.mode = .outside) {line name : Text}
    (h : Text.after? CodeBlock.header line = some name) :
    step default st line
      = ⟨⟨.insideCodeBlock, CodeBlock.languageOr default name.trim, []⟩, [], false⟩ := by
  simp [step, hst, h]

theorem step_outside_of_none {st : State} (hst : st.mode = .outside) {line : Text}
    (h : Text.after? CodeBlock.header line = none) :
    step default st line = ⟨st, [convertLine line], false⟩ := by
  simp [step, hst, h]

theorem steps_outside_of_header {line name : Text}
    (h : Text.after? CodeBlock.header line = some name) :
    steps default {} line
      = [⟨⟨.insideCodeBlock, CodeBlock.languageOr default name.trim, []⟩, [], false⟩] := by
  have hstep : step default {} line = _ := step_outside_of_header default rfl h
  rw [steps_of_again_eq_false (by rw [hstep]), hstep]

theorem steps_outside_of_none {line : Text} (h : Text.after? CodeBlock.header line = none) :
    steps default {} line = [⟨{}, [convertLine line], false⟩] := by
  have hstep : step default {} line = _ := step_outside_of_none default rfl h
  rw [steps_of_again_eq_false (by rw [hstep]), hstep]

/-- With no block open, a scan puts out the parts of the lines in order. -/
theorem scan_outside (number openedAt : Nat) (lines : List Text) :
    scan default number ⟨{}, openedAt⟩ lines = .ofParts (Part.ofLines default number lines) := by
  induction number, lines using Part.ofLines.induct generalizing openedAt with
  | case1 number =>
    rw [Part.ofLines_nil]
    rfl
  | case2 number line rest h ih =>
    have hrun : Cursor.run number ⟨{}, openedAt⟩ (steps default {} line)
        = (⟨{}, openedAt⟩, .ofParts [.prose line]) := by
      rw [steps_outside_of_none default h]
      rfl
    rw [Part.ofLines_cons_of_none default number rest h, Output.ofParts_cons, scan, hrun]
    simp only [ih]
  | case3 number line rest name h ih =>
    have hrun : Cursor.run number ⟨{}, openedAt⟩ (steps default {} line)
        = (⟨⟨.insideCodeBlock, CodeBlock.languageOr default name.trim, []⟩, number⟩, {}) := by
      rw [steps_outside_of_header default h]
      rfl
    rw [Part.ofLines_cons_of_header default number rest h, Output.ofParts_cons, scan, hrun]
    simp only [Output.empty_append]
    rw [scan_inside, ih, List.nil_append]

end Outside

theorem output_eq_ofParts (default s : Text) :
    output default s = .ofParts (Part.ofLines default 1 s.lines) := scan_outside default 1 0 s.lines

/-- A text in Markdown is the Markdown of its parts, freed of the blanks at its end, and the
warnings are theirs: one for each block with nothing but blanks in it, by the line of its header. -/
theorem toMarkdown_eq_parts (default s : Text) :
    toMarkdown default s
        = ⟨(Text.ofLines ((Part.ofLines default 1 s.lines).flatMap Part.markdownLines)).trimRight,
            (Part.ofLines default 1 s.lines).flatMap Part.warnings⟩
      ∧ ∀ (language : Text) (number : Nat), (Warning.emptyBlock language number).message
          = "Code block '".toList ++ language ++ "' at line ".toList ++ (toString number).toList
            ++ " has no body".toList := by
  refine ⟨?_, fun language number => rfl⟩
  simp only [toMarkdown, output_eq_ofParts, Output.ofParts]

end Scrapbox

end Dialects
