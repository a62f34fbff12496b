import Dialects.Proofs.Seams

/-!
# What a scan remembers

The state after any calls holds what the next line has to be read with, and nothing else: nothing if
no block is open (`Scrapbox.State.IsClear.after`), and otherwise the language by the header of the
block and the code of the lines since (`Scrapbox.after_eq_insideCodeBlock_iff`). The calls need not
be those of a scan: a line that closes a block may be left to a step that is never called, and then
the header that it may be is lost.
-/

namespace Dialects

namespace Scrapbox

open CodeBlock

section Step

variable (default : Text) (st : State) (line : Text)

/-- A step writes nothing exactly if a block is open after it. -/
theorem lines_step_eq_nil_iff :
    (step default st line).lines = [] ↔ (step default st line).state.mode = .insideCodeBlock := by
  rcases step_cases default st line with
    ⟨hmode, hstep⟩ | ⟨name, -, -, hstep⟩ | ⟨language, body, -, -, hstep⟩ | ⟨-, -, hstep⟩
  · rw [hstep]
    simp [hmode]
  · rw [hstep]
    simp
  · rw [hstep]
    simp
  · rw [hstep]
    simp [markdownLines]

theorem again_step_iff :
    (step default st line).again = true
      ↔ st.mode = .insideCodeBlock ∧ continuesBlock line = false := by
  rcases step_cases default st line with
    ⟨hmode, hstep⟩ | ⟨name, hmode, -, hstep⟩ | ⟨language, body, rfl, hline, hstep⟩
      | ⟨hmode, hline, hstep⟩
  · rw [hstep, hmode]
    simp
  · rw [hstep, hmode]
    simp
  · rw [hstep, hline]
    simp
  · rw [hstep, hmode, hline]
    simp

end Step

theorem length_steps_le (default : Text) (st : State) (line : Text) :
    (steps default st line).length ≤ 2 := by
  rw [steps_eq]
  split <;> simp

theorem length_ofLines_le (default : Text) (st : State) (lines : List Text) :
    (Call.ofLines default st lines).length ≤ 2 * lines.length := by
  induction lines generalizing st with
  | nil => simp [Call.ofLines]
  | cons line lines ih =>
    have hline := length_steps_le default st line
    have hlines := ih (st.next default line)
    rw [Call.ofLines, List.length_append, List.length_map, List.length_cons]
    omega

/-- Calls with lines that continue the open block add their code to it. -/
theorem after_inside (language : Text) (body : List Text) {calls : List Call}
    (h : ∀ call ∈ calls, continuesBlock call.line = true) :
    State.after ⟨.insideCodeBlock, language, body⟩ calls
      = ⟨.insideCodeBlock, language, body ++ calls.map (·.line.drop 1)⟩ := by
  induction calls generalizing body with
  | nil => simp [State.after]
  | cons call calls ih =>
    rw [List.forall_mem_cons] at h
    rw [State.after_cons, Call.transition,
      step_inside_of_continuesBlock call.default language body h.1, ih _ h.2, List.map_cons,
      List.append_assoc]
    rfl

/-- A block is open exactly if its header was taken with none open and all lines since then have
continued it. -/
theorem after_eq_insideCodeBlock_iff (calls : List Call) (language : Text) (body : List Text) :
    State.after {} calls = ⟨.insideCodeBlock, language, body⟩
      ↔ ∃ before opening name since, calls = before ++ opening :: since
          ∧ State.after {} before = {}
          ∧ opening.line = header ++ name
          ∧ language = languageOr opening.default name.trim
          ∧ (∀ call ∈ since, continuesBlock call.line = true)
          ∧ body = since.map (·.line.drop 1) := by
  constructor
  · -- the last call opens the block or continues the one that was open before it
    induction calls using List.reverseRecOn generalizing body with
    | nil =>
      intro h
      cases h
    | append_singleton calls call ih =>
      rw [State.after_concat, Call.transition]
      rcases step_cases call.default (State.after {} calls) call.line with
        ⟨hmode, hstep⟩ | ⟨name, hmode, hline, hstep⟩ | ⟨language', body', hst, hline, hstep⟩
          | ⟨-, -, hstep⟩
      · rw [hstep]
        intro h
        cases hmode.symm.trans (congrArg State.mode h)
      · rw [hstep]
        intro h
        cases h
        have hempty : State.after {} calls = {} := State.isClear_empty.after calls hmode
        exact ⟨calls, call, name, [], rfl, hempty, hline, rfl, by simp, rfl⟩
      · rw [hstep]
        intro h
        cases h
        obtain ⟨before, opening, name, since, rfl, hbefore, hopening, hlanguage, hsince, rfl⟩ :=
          ih body' hst
        refine ⟨before, opening, name, since ++ [call], by simp, hbefore, hopening, hlanguage, ?_,
          by simp⟩
        intro later hlater
        rcases List.mem_append.1 hlater with hlater | hlater
        · exact hsince later hlater
        · rw [List.mem_singleton.1 hlater]
          exact hline
      · rw [hstep]
        intro h
        cases h
  · rintro ⟨before, opening, name, since, rfl, hbefore, hline, rfl, hsince, rfl⟩
    have hopen : opening.transition {}
        = ⟨⟨.insideCodeBlock, languageOr opening.default name.trim, []⟩, [], false⟩ :=
      step_outside_of_header opening.default rfl (Text.after?_eq_some_iff.2 hline)
    rw [State.after_append, hbefore, State.after_cons, hopen, after_inside _ _ hsince,
      List.nil_append]

/-- After any calls the state is the empty one, unless a block is open. Then a header was taken with
no block open, all lines since have continued its block, and the state holds the language that the
header names, or else the default one of that call, and these lines without their first characters.
A call writes nothing exactly if a block is open after it. It leaves its line exactly if a block is
open before it and the line is neither empty nor indented; then the state is empty, and no call
leaves that line again. So a scan, whose states are all reached by calls, makes at most two of them
for each line. -/
theorem after_remembers (calls : List Call) (call : Call) :
    ((State.after {} calls).mode = .outside ↔ State.after {} calls = {})
      ∧ (∀ language body, State.after {} calls = ⟨.insideCodeBlock, language, body⟩
          ↔ ∃ before opening name since, calls = before ++ opening :: since
              ∧ State.after {} before = {}
              ∧ opening.line = header ++ name
              ∧ language = languageOr opening.default name.trim
              ∧ (∀ later ∈ since, continuesBlock later.line = true)
              ∧ body = since.map (·.line.drop 1))
      ∧ ((call.transition (State.after {} calls)).lines = []
          ↔ (call.transition (State.after {} calls)).state.mode = .insideCodeBlock)
      ∧ ((call.transition (State.after {} calls)).again = true
          ↔ (State.after {} calls).mode = .insideCodeBlock
              ∧ call.line ≠ [] ∧ call.line.head? ≠ some ' ')
      ∧ ((call.transition (State.after {} calls)).again = true →
          (call.transition (State.after {} calls)).state = {}
            ∧ ∀ default, (step default {} call.line).again = false)
      ∧ steps call.default (State.after {} calls) call.line
          = call.transition (State.after {} calls)
            :: (if (call.transition (State.after {} calls)).again = true
                then [step call.default {} call.line]
                else [])
      ∧ (steps call.default (State.after {} calls) call.line).length ≤ 2
      ∧ ∀ default lines, State.after {} (Call.ofLines default {} lines) = State.run default {} lines
          ∧ (Call.ofLines default {} lines).length ≤ 2 * lines.length := by
  refine ⟨⟨State.isClear_empty.after calls, ?_⟩, after_eq_insideCodeBlock_iff calls,
    lines_step_eq_nil_iff _ _ _, ?_, ?_, steps_eq _ _ _, length_steps_le _ _ _,
    fun default lines => ⟨after_ofLines default {} lines, length_ofLines_le default {} lines⟩⟩
  · intro hempty
    rw [hempty]
  · rw [← continuesBlock_eq_false_iff]
    exact again_step_iff call.default (State.after {} calls) call.line
  · intro hagain
    exact ⟨(mode_of_again hagain).2, fun default => again_step_empty default call.line⟩

/-- A header closes a block and is left. If it is called again it opens its own, and if it is not,
nothing of it stays. -/
theorem after_remembers_header :
    ∃ calls : List Call, calls
          = [⟨['t'], "code: py ".toList⟩, ⟨['u'], "  x".toList⟩, ⟨['u'], []⟩]
      ∧ State.after {} calls = ⟨.insideCodeBlock, "py".toList, [" x".toList, []]⟩
      ∧ (Call.transition ⟨['v'], "code:".toList⟩ (State.after {} calls)).again = true
      ∧ State.after {} (calls ++ [⟨['v'], "code:".toList⟩]) = {}
      ∧ State.after {} (calls ++ [⟨['v'], "code:".toList⟩] ++ [⟨['w'], "code:".toList⟩])
          = ⟨.insideCodeBlock, ['w'], []⟩ := by
  obtain ⟨-, hinside, -, hagain, hleft, -, -, -⟩ := after_remembers
    [⟨['t'], "code: py ".toList⟩, ⟨['u'], "  x".toList⟩, ⟨['u'], []⟩] ⟨['v'], "code:".toList⟩
  have hopen := (hinside "py".toList [" x".toList, []]).2
    ⟨[], ⟨['t'], "code: py ".toList⟩, " py ".toList, [⟨['u'], "  x".toList⟩, ⟨['u'], []⟩],
      rfl, rfl, by decide, by decide, by decide, by decide⟩
  have hleave := hagain.2 ⟨by rw [hopen], by decide, by decide⟩
  have hlost := (State.after_concat _ _ _).trans (hleft hleave).1
  refine ⟨_, rfl, hopen, hleave, hlost, ?_⟩
  rw [State.after_concat, hlost]
  decide

end Scrapbox

end Dialects
