import Dialects.Proofs.Parts
import Dialects.Scrapbox.Run

/-!
# The states of a scan

With no block open a line opens one or leaves the state as it is; with one open a line joins its
code, or is taken as if none were open (`Scrapbox.step_cases`). So a header opens its block from any
state (`Scrapbox.steps_header`), and the blocks that a scan closes are those of the parts of its
text (`Scrapbox.closed_eq`). A line is left to another step only with the empty state, in which no
step leaves it, so a scan calls one step or two for each line (`Scrapbox.steps_eq`).
-/

namespace Dialects

namespace Scrapbox

open CodeBlock

/-- With no block open a step writes the line or opens a block by it; with one open it takes the
line in or closes the block. -/
theorem step_cases (default : Text) (st : State) (line : Text) :
    (st.mode = .outside ∧ step default st line = ⟨st, [convertLine line], false⟩)
      ∨ (∃ name, st.mode = .outside ∧ line = header ++ name
          ∧ step default st line
            = ⟨⟨.insideCodeBlock, languageOr default name.trim, []⟩, [], false⟩)
      ∨ (∃ language body, st = ⟨.insideCodeBlock, language, body⟩ ∧ continuesBlock line = true
          ∧ step default st line
            = ⟨⟨.insideCodeBlock, language, body ++ [line.drop 1]⟩, [], false⟩)
      ∨ (st.mode = .insideCodeBlock ∧ continuesBlock line = false
          ∧ step default st line = ⟨{}, st.block.markdownLines, true⟩) := by
  obtain ⟨mode, language, body⟩ := st
  cases mode with
  | outside =>
    cases h : Text.after? header line with
    | none => exact .inl ⟨rfl, step_outside_of_none default rfl h⟩
    | some name =>
      exact .inr (.inl
        ⟨name, rfl, Text.after?_eq_some_iff.1 h, step_outside_of_header default rfl h⟩)
  | insideCodeBlock =>
    cases h : continuesBlock line with
    | true =>
      exact .inr (.inr (.inl
        ⟨language, body, rfl, rfl, step_inside_of_continuesBlock default language body h⟩))
    | false =>
      exact .inr (.inr (.inr
        ⟨rfl, rfl, step_inside_of_not_continuesBlock default language body h⟩))

theorem again_step_empty (default line : Text) : (step default {} line).again = false := by
  rw [Bool.eq_false_iff]
  intro h
  cases (mode_of_again h).1

/-- The steps on a line end with the first or with the second. -/
theorem steps_eq (default : Text) (st : State) (line : Text) :
    steps default st line
      = step default st line
        :: if (step default st line).again = true then [step default {} line] else [] := by
  by_cases h : (step default st line).again = true
  · rw [if_pos h, steps_of_again h, steps_of_again_eq_false (again_step_empty default line)]
  · rw [if_neg h, steps_of_again_eq_false (Bool.eq_false_iff.2 h)]

/-- The steps of a scan on a line are calls with that line, one after the other. -/
theorem after_map_steps (default : Text) (st : State) (line : Text) :
    st.after ((steps default st line).map fun _ => ⟨default, line⟩) = st.next default line := by
  rw [State.next, steps_eq]
  split
  · rename_i h
    simp only [List.map_cons, List.map_nil, State.after_cons, Call.transition, (mode_of_again h).2]
    rfl
  · rfl

theorem after_ofLines (default : Text) (st : State) (lines : List Text) :
    st.after (Call.ofLines default st lines) = st.run default lines := by
  induction lines generalizing st with
  | nil => rfl
  | cons line lines ih =>
    rw [Call.ofLines, State.after_append, after_map_steps, ih, State.run_cons]

theorem next_outside_of_none {default line : Text}
    (h : Text.after? CodeBlock.header line = none) : State.next default {} line = {} := by
  rw [State.next, steps_outside_of_none default h]
  rfl

theorem next_outside_of_header {default line name : Text}
    (h : Text.after? CodeBlock.header line = some name) :
    State.next default {} line = ⟨.insideCodeBlock, languageOr default name.trim, []⟩ := by
  rw [State.next, steps_outside_of_header default h]
  rfl

theorem next_inside_of_continuesBlock (default language : Text) (body : List Text) {line : Text}
    (h : continuesBlock line = true) :
    State.next default ⟨.insideCodeBlock, language, body⟩ line
      = ⟨.insideCodeBlock, language, body ++ [line.drop 1]⟩ := by
  rw [State.next, steps_inside_of_continuesBlock default language body h]
  rfl

/-- A line that does not continue the open block is taken as if none were open. -/
theorem next_inside_of_not_continuesBlock (default language : Text) (body : List Text) {line : Text}
    (h : continuesBlock line = false) :
    State.next default ⟨.insideCodeBlock, language, body⟩ line = State.next default {} line := by
  rw [State.next, steps_inside_of_not_continuesBlock default language body h]
  rfl

/-- The state that closes a part, if it is a block. -/
def Part.state? : Part → Option State
  | .prose _ => none
  | .block _ language body => some ⟨.insideCodeBlock, language, body⟩

theorem closed_inside (default language : Text) (body lines : List Text) :
    closed default ⟨.insideCodeBlock, language, body⟩ lines
      = ⟨.insideCodeBlock, language, body ++ (lines.takeWhile continuesBlock).map (·.drop 1)⟩
        :: closed default {} (lines.dropWhile continuesBlock) := by
  induction lines generalizing body with
  | nil => simp [closed]
  | cons line lines ih =>
    cases h : continuesBlock line with
    | true =>
      have hagain : (step default ⟨.insideCodeBlock, language, body⟩ line).again = false := by
        rw [step_inside_of_continuesBlock default language body h]
      rw [closed, hagain, next_inside_of_continuesBlock default language body h, ih,
        List.takeWhile_cons_of_pos h, List.dropWhile_cons_of_pos h, List.map_cons,
        List.append_assoc]
      rfl
    | false =>
      have hnot : ¬ continuesBlock line = true := by simp [h]
      have hagain : (step default ⟨.insideCodeBlock, language, body⟩ line).again = true := by
        rw [step_inside_of_not_continuesBlock default language body h]
      rw [List.takeWhile_cons_of_neg hnot, List.dropWhile_cons_of_neg hnot, List.map_nil,
        List.append_nil, closed, closed, hagain, again_step_empty,
        next_inside_of_not_continuesBlock default language body h]
      rfl

/-- The blocks that a scan closes are the parts of the lines that are blocks. -/
theorem closed_eq (default : Text) (number : Nat) (lines : List Text) :
    closed default {} lines = (Part.ofLines default number lines).filterMap Part.state? := by
  induction number, lines using Part.ofLines.induct with
  | case1 number =>
    rw [Part.ofLines_nil]
    rfl
  | case2 number line rest h ih =>
    rw [Part.ofLines_cons_of_none default number rest h, closed, again_step_empty,
      next_outside_of_none h, ih]
    rfl
  | case3 number line rest name h ih =>
    rw [Part.ofLines_cons_of_header default number rest h, closed, again_step_empty,
      next_outside_of_header h, closed_inside, ih]
    rfl

/-- A header closes the block that is open, if there is one, and opens its own. -/
theorem steps_header (default : Text) (st : State) (name : Text) :
    steps default st (header ++ name)
      = (if st.mode = .insideCodeBlock then [⟨{}, st.block.markdownLines, true⟩] else [])
        ++ [⟨⟨.insideCodeBlock, languageOr default name.trim, []⟩, [], false⟩] := by
  have hname : Text.after? header (header ++ name) = some name := Text.after?_append header name
  obtain ⟨mode, language, body⟩ := st
  cases mode with
  | outside =>
    have hstep : step default ⟨.outside, language, body⟩ (header ++ name) = _ :=
      step_outside_of_header default rfl hname
    rw [steps_of_again_eq_false (by rw [hstep]), hstep]
    rfl
  | insideCodeBlock =>
    rw [steps_inside_of_not_continuesBlock default language body rfl,
      steps_outside_of_header default hname]
    rfl

theorem next_header (default : Text) (st : State) (name : Text) :
    st.next default (header ++ name) = ⟨.insideCodeBlock, languageOr default name.trim, []⟩ := by
  rw [State.next, steps_header, List.foldl_append]
  rfl

theorem run_inside (default language : Text) (body : List Text) {lines : List Text}
    (h : ∀ line ∈ lines, continuesBlock line = true) :
    State.run default ⟨.insideCodeBlock, language, body⟩ lines
      = ⟨.insideCodeBlock, language, body ++ lines.map (·.drop 1)⟩ := by
  induction lines generalizing body with
  | nil => simp [State.run]
  | cons line lines ih =>
    rw [List.forall_mem_cons] at h
    rw [State.run_cons, next_inside_of_continuesBlock default language body h.1, ih _ h.2,
      List.map_cons, List.append_assoc]
    rfl

end Scrapbox

end Dialects
