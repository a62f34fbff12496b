import Dialects.Proofs.ScanRuns

/-!
# Texts put together

A line that is neither empty nor indented closes the block that is open in front of it as the end
of a text would, and is then taken as the first line of a text
(`Scrapbox.steps_of_not_continuesBlock`). So a scan puts out what it has put out for the text before
that line, and then what a scan of its own puts out for the text from that line on
(`Scrapbox.scan_append`); of the text before, only the number of its lines is seen, in the warnings.
-/

namespace Dialects

/-- The warning with so many more lines before the text it is about. -/
def Warning.later (count : Nat) : Warning → Warning
  | .unmatchedFences fences => .unmatchedFences fences
  | .emptyBlock language line => .emptyBlock language (line + count)

namespace Scrapbox

/-- The output with so many more lines before the text it is of. -/
def Output.later (count : Nat) (out : Output) : Output :=
  ⟨out.lines, out.warnings.map (Warning.later count)⟩

namespace Part

/-- The part with so many more lines before it. -/
def later (count : Nat) : Part → Part
  | .prose line => .prose line
  | .block number language body => .block (number + count) language body

theorem ofLines_add (default : Text) (number count : Nat) (lines : List Text) :
    ofLines default (number + count) lines = (ofLines default number lines).map (later count) := by
  induction number, lines using ofLines.induct with
  | case1 number => rw [ofLines_nil, ofLines_nil, List.map_nil]
  | case2 number line rest h ih =>
    rw [ofLines_cons_of_none default _ rest h, ofLines_cons_of_none default _ rest h,
      Nat.add_right_comm, ih, List.map_cons, later]
  | case3 number line rest name h ih =>
    rw [ofLines_cons_of_header default _ rest h, ofLines_cons_of_header default _ rest h,
      Nat.add_right_comm number count 1, Nat.add_right_comm (number + 1) count, ih, List.map_cons,
      later]

theorem markdownLines_later (count : Nat) (part : Part) :
    (part.later count).markdownLines = part.markdownLines := by
  cases part <;> rfl

theorem warnings_later (count : Nat) (part : Part) :
    (part.later count).warnings = part.warnings.map (Warning.later count) := by
  cases part with
  | prose line => rfl
  | block number language body =>
    simp only [later, warnings]
    split <;> rfl

end Part

theorem Output.ofParts_map_later (count : Nat) (parts : List Part) :
    ofParts (parts.map (Part.later count)) = (ofParts parts).later count := by
  ext1
  · simp only [ofParts, later, List.flatMap_map, Part.markdownLines_later]
  · simp only [ofParts, later, List.flatMap_map, List.map_flatMap, Part.warnings_later]

/-- With no block open, nothing is left of one that was. -/
def State.IsClear (st : State) : Prop := st.mode = .outside → st = {}

theorem State.isClear_empty : State.IsClear {} := fun _ => rfl

theorem State.IsClear.transition {st : State} (hst : st.IsClear) (call : Call) :
    (call.transition st).state.IsClear := by
  rw [Call.transition]
  rcases step_cases call.default st call.line with
    ⟨-, hstep⟩ | ⟨name, -, -, hstep⟩ | ⟨language, body, -, -, hstep⟩ | ⟨-, -, hstep⟩
  · rw [hstep]
    exact hst
  · rw [hstep]
    intro hmode
    cases hmode
  · rw [hstep]
    intro hmode
    cases hmode
  · rw [hstep]
    exact State.isClear_empty

theorem State.IsClear.after {st : State} (hst : st.IsClear) (calls : List Call) :
    (st.after calls).IsClear := by
  induction calls generalizing st with
  | nil => exact hst
  | cons call calls ih =>
    rw [State.after_cons]
    exact ih (hst.transition call)

theorem State.IsClear.run {st : State} (hst : st.IsClear) (default : Text) (lines : List Text) :
    (st.run default lines).IsClear := by
  rw [← after_ofLines]
  exact hst.after _

/-- What is put out for lines does not depend on those behind them, but for the block that is still
open. -/
theorem exists_scan_append (default : Text) (lines : List Text) (c : Cursor) (number : Nat) :
    ∃ out c', c'.state = c.state.run default lines ∧
      ∀ more, scan default number c (lines ++ more)
        = out ++ scan default (number + lines.length) c' more := by
  induction lines generalizing c number with
  | nil => exact ⟨{}, c, rfl, fun more => rfl⟩
  | cons line lines ih =>
    rcases hrun : c.run number (steps default c.state line) with ⟨c₁, out⟩
    have hstate := c.state_run_steps default number line
    rw [hrun] at hstate
    obtain ⟨out', c', hc', hmore⟩ := ih c₁ (number + 1)
    refine ⟨out ++ out', c', ?_, fun more => ?_⟩
    · rw [hc', hstate, State.run_cons]
    · rw [List.cons_append, scan, hrun]
      simp only [hmore, Output.append_assoc, List.length_cons, Nat.add_assoc, Nat.add_comm 1]

section Unindented

variable (default : Text) {first : Text} (h : continuesBlock first = false)

include h

/-- A line that continues no block closes the open one as the end of the text does. -/
theorem steps_of_not_continuesBlock {st : State} (hst : st.IsClear) :
    steps default st first
      = (if st.mode = .insideCodeBlock then [⟨{}, finish st, true⟩] else [])
        ++ steps default {} first := by
  obtain ⟨mode, language, body⟩ := st
  cases mode with
  | outside =>
    rw [hst rfl]
    rfl
  | insideCodeBlock =>
    rw [steps_inside_of_not_continuesBlock default language body h]
    rfl

theorem scan_of_not_continuesBlock {c : Cursor} (hc : c.state.IsClear) (number : Nat)
    (rest : List Text) :
    scan default number c (first :: rest)
      = c.finish ++ scan default number {} (first :: rest) := by
  obtain ⟨⟨mode, language, body⟩, openedAt⟩ := c
  cases mode with
  | outside =>
    rw [show (⟨.outside, language, body⟩ : State) = {} from hc rfl, scan_outside, scan_outside]
    rfl
  | insideCodeBlock =>
    have hnot : ¬ continuesBlock first = true := by simp [h]
    rw [scan_inside, List.takeWhile_cons_of_neg hnot, List.dropWhile_cons_of_neg hnot,
      List.map_nil, List.append_nil, ← output_close, scan_outside, scan_outside]
    rfl

theorem scan_append (lines rest : List Text) {c : Cursor} (hc : c.state.IsClear) (number : Nat) :
    scan default number c (lines ++ first :: rest)
      = scan default number c lines
        ++ scan default (number + lines.length) {} (first :: rest) := by
  obtain ⟨out, c', hstate, hmore⟩ := exists_scan_append default lines c number
  have hc' : c'.state.IsClear := hstate ▸ hc.run default lines
  have hlines : scan default number c lines = out ++ c'.finish := by
    have hnil := hmore []
    rwa [List.append_nil] at hnil
  rw [hmore, scan_of_not_continuesBlock default h hc', hlines, Output.append_assoc]

end Unindented

theorem continuesBlock_eq_false_iff {line : Text} :
    continuesBlock line = false ↔ line ≠ [] ∧ line.head? ≠ some ' ' := by
  cases line with
  | nil => simp [continuesBlock]
  | cons c line => simp [continuesBlock]

/-- A text that starts with a line that is neither empty nor indented is converted on its own,
whatever text stands before it. -/
theorem output_append_newline (default a : Text) {b first : Text} {rest : List Text}
    (hb : b.lines = first :: rest) (h : continuesBlock first = false) :
    output default (a ++ '\n' :: b)
      = output default a ++ (output default b).later a.lines.length := by
  have hscan := scan_append default h a.lines rest (c := {}) State.isClear_empty 1
  have hlater : scan default (1 + a.lines.length) {} b.lines
      = (output default b).later a.lines.length := by
    rw [scan_outside, Part.ofLines_add, Output.ofParts_map_later, output_eq_ofParts]
  rw [output, Text.lines_append_newline, hb, hscan, ← hb, hlater]
  rfl

/-- Where a text goes on with a line that is neither empty nor indented, the lines of both stretches
stand one after the other, and the second one's warnings count the lines of the first. That line
closes the block that is open before it with the lines that the end of the text would write, and is
then taken as if it were the first of all. -/
theorem toMarkdown_append_unindented (default a : Text) {b first : Text} {rest : List Text}
    (hb : b.lines = first :: rest) (hne : first ≠ []) (hsp : first.head? ≠ some ' ') :
    (output default (a ++ '\n' :: b)).lines = (output default a).lines ++ (output default b).lines
      ∧ toMarkdown default (a ++ '\n' :: b)
          = ⟨(Text.ofLines ((output default a).lines ++ (output default b).lines)).trimRight,
              (toMarkdown default a).warnings
                ++ (toMarkdown default b).warnings.map (Warning.later a.lines.length)⟩
      ∧ steps default (State.run default {} a.lines) first
          = (if (State.run default {} a.lines).mode = .insideCodeBlock then
                [⟨{}, finish (State.run default {} a.lines), true⟩]
              else [])
            ++ steps default {} first := by
  have h : continuesBlock first = false := continuesBlock_eq_false_iff.2 ⟨hne, hsp⟩
  have hout := output_append_newline default a hb h
  refine ⟨?_, ?_, ?_⟩
  · rw [hout]
    rfl
  · simp only [toMarkdown, hout]
    rfl
  · exact steps_of_not_continuesBlock default h (State.isClear_empty.run default a.lines)

/-- Two headers with nothing but blanks behind them, of which the second closes the block of the
first. -/
theorem toMarkdown_append_unindented_headers :
    Text.lines "code:\n\nx".toList = "code:".toList :: [[], ['x']]
      ∧ "code:".toList ≠ [] ∧ "code:".toList.head? ≠ some ' '
      ∧ (output ['t'] "code:js\n  \ncode:\n\nx".toList).lines
          = ["```js".toList, "```".toList, "```t".toList, "```".toList, ['x']]
      ∧ (toMarkdown ['t'] "code:js\n  \ncode:\n\nx".toList).warnings
          = [.emptyBlock ['j', 's'] 1, .emptyBlock ['t'] 3]
      ∧ steps ['t'] (State.run ['t'] {} (Text.lines "code:js\n  ".toList)) "code:".toList
          = [⟨{}, ["```js".toList, "```".toList], true⟩,
              ⟨⟨.insideCodeBlock, ['t'], []⟩, [], false⟩] := by
  have hb : Text.lines "code:\n\nx".toList = "code:".toList :: [[], ['x']] := by decide +kernel
  have hne : "code:".toList ≠ [] := by decide
  have hsp : "code:".toList.head? ≠ some ' ' := by decide
  obtain ⟨hlines, hconverted, hsteps⟩ :=
    toMarkdown_append_unindented ['t'] "code:js\n  ".toList hb hne hsp
  refine ⟨hb, hne, hsp, hlines.trans (by decide +kernel), ?_, hsteps.trans (by decide +kernel)⟩
  exact (congrArg Converted.warnings hconverted).trans (by decide +kernel)

end Scrapbox

end Dialects
