import Dialects.CodeBlock
import Dialects.Scrapbox.Line
import Dialects.Text.Blank

/-!
# Scanning Scrapbox lines

A scan takes the lines in order and remembers whether a code block is open, and if so its language
and its body so far. A line that does not belong to the open block closes it and is then taken
again (`Transition.again`); as the second attempt meets no open block, a line is taken in at most
two steps (`steps`).
-/

namespace Dialects

namespace Scrapbox

/-- Is a code block open? -/
inductive Mode
  | outside
  | insideCodeBlock
  deriving DecidableEq, Repr

/-- What a scan remembers; language and body are those of the open block. -/
structure State where
  mode : Mode := .outside
  language : Text := []
  body : List Text := []
  deriving DecidableEq, Repr

/-- What a step does: the state after it, the lines it writes, and whether it leaves the line to
be taken by another step. -/
structure Transition where
  state : State
  lines : List Text
  again : Bool
  deriving DecidableEq, Repr

/-- The code that a line holds in an open block: an empty line, or one that starts with a space. -/
def bodyLine? : Text → Option Text
  | [] => some []
  | ' ' :: code => some code
  | _ => none

/-- The open block, without the blanks its body ends in. -/
def State.block (st : State) : CodeBlock := ⟨st.language, (Text.ofLines st.body).trimRight⟩

def step (default : Text) (st : State) (line : Text) : Transition :=
  match st.mode with
  | .insideCodeBlock =>
    match bodyLine? line with
    | some code => ⟨⟨.insideCodeBlock, st.language, st.body ++ [code]⟩, [], false⟩
    | none => ⟨{}, st.block.markdownLines, true⟩
  | .outside =>
    match Text.after? CodeBlock.header line with
    | some name =>
      ⟨⟨.insideCodeBlock, CodeBlock.languageOr default name.trim, []⟩, [], false⟩
    | none => ⟨st, [convertLine line], false⟩

def finish (st : State) : List Text :=
  match st.mode with
  | .insideCodeBlock => st.block.markdownLines
  | .outside => []

/-- A line is left to another step only where it closes a block. -/
theorem mode_of_again {default : Text} {st : State} {line : Text}
    (h : (step default st line).again = true) :
    st.mode = .insideCodeBlock ∧ (step default st line).state = {} := by
  unfold step at h ⊢
  split at h
  · rename_i hmode
    split at h
    · simp at h
    · simp_all
  · split at h <;> simp at h

/-- The steps that take one line: while a step leaves the line, the next one gets it. -/
def steps (default : Text) (st : State) (line : Text) : List Transition :=
  let t := step default st line
  if _h : t.again = true then t :: steps default t.state line else [t]
termination_by if st.mode = .insideCodeBlock then 1 else 0
decreasing_by
  obtain ⟨hmode, hstate⟩ := mode_of_again _h
  simp only [t, hstate, hmode]
  decide

end Scrapbox

end Dialects
