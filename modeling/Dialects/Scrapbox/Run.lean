import Dialects.Scrapbox.Conversion

/-!
# Runs of a scan

A scan goes from state to state over the lines of a text. The states in which it closes a block, in
front of a line or at the end of the text, are the blocks of the text with their code. The steps of
a scan are calls, each in the state that the one before it left; calls may also follow each other as
no scan makes them.
-/

namespace Dialects

namespace Scrapbox

/-- The state after a line has been taken. -/
def State.next (default : Text) (st : State) (line : Text) : State :=
  (steps default st line).foldl (fun _ t => t.state) st

/-- The state after these lines. -/
def State.run (default : Text) (st : State) (lines : List Text) : State :=
  lines.foldl (State.next default) st

/-- The states in which the scan of these lines closes a block. -/
def closed (default : Text) (st : State) : List Text → List State
  | [] => if st.mode = .insideCodeBlock then [st] else []
  | line :: rest =>
    (if (step default st line).again = true then [st] else [])
      ++ closed default (st.next default line) rest

/-- A line that is given to a step, with the language of blocks that name none. -/
structure Call where
  default : Text
  line : Text
  deriving DecidableEq, Repr

/-- The step that is called so in this state. -/
def Call.transition (call : Call) (st : State) : Transition := step call.default st call.line

/-- The state after these calls. -/
def State.after (st : State) (calls : List Call) : State :=
  calls.foldl (fun st call => (call.transition st).state) st

/-- The calls that a scan of these lines makes. -/
def Call.ofLines (default : Text) (st : State) : List Text → List Call
  | [] => []
  | line :: rest =>
    (steps default st line).map (fun _ => ⟨default, line⟩)
      ++ ofLines default (st.next default line) rest

/-- A cursor goes through the states of the steps it takes. -/
theorem Cursor.state_run (number : Nat) (c : Cursor) (ts : List Transition) :
    (c.run number ts).1.state = ts.foldl (fun _ t => t.state) c.state := by
  induction ts generalizing c with
  | nil => rfl
  | cons t ts ih => exact ih (c.move number t)

theorem Cursor.state_run_steps (default : Text) (number : Nat) (c : Cursor) (line : Text) :
    (c.run number (steps default c.state line)).1.state = c.state.next default line :=
  c.state_run number _

theorem State.run_cons (default : Text) (st : State) (line : Text) (lines : List Text) :
    st.run default (line :: lines) = (st.next default line).run default lines :=
  rfl

theorem State.run_append (default : Text) (st : State) (lines more : List Text) :
    st.run default (lines ++ more) = (st.run default lines).run default more :=
  List.foldl_append

theorem State.after_cons (st : State) (call : Call) (calls : List Call) :
    st.after (call :: calls) = (call.transition st).state.after calls :=
  rfl

theorem State.after_append (st : State) (calls more : List Call) :
    st.after (calls ++ more) = (st.after calls).after more :=
  List.foldl_append

theorem State.after_concat (st : State) (calls : List Call) (call : Call) :
    st.after (calls ++ [call]) = (call.transition (st.after calls)).state :=
  st.after_append calls [call]

end Scrapbox

end Dialects
