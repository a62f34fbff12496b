import Dialects.Scrapbox.Scan
import Dialects.Warning

/-!
# From Scrapbox to Markdown

A text is scanned line by line, and what the steps write is joined and freed of the blanks at its
end. A block that closes with nothing but blanks in it is reported by the line that opened it.
-/

namespace Dialects

namespace Scrapbox

/-- Lines written, and the warnings that go with them. -/
structure Output where
  lines : List Text := []
  warnings : List Warning := []
  deriving DecidableEq, Repr

instance : Append Output := ⟨fun a b => ⟨a.lines ++ b.lines, a.warnings ++ b.warnings⟩⟩

/-- A state, with the number of the line that opened the latest block. -/
structure Cursor where
  state : State := {}
  openedAt : Nat := 0
  deriving DecidableEq, Repr

namespace Cursor

/-- The warning about the open block if it has nothing but blanks in it. -/
def check (c : Cursor) : List Warning :=
  if c.state.body.all Text.isBlank then [.emptyBlock c.state.language c.openedAt] else []

/-- The cursor after a step on the line of this number. -/
def move (number : Nat) (c : Cursor) (t : Transition) : Cursor :=
  { state := t.state
    openedAt :=
      if c.state.mode = .outside ∧ t.state.mode = .insideCodeBlock then number else c.openedAt }

/-- What a step puts out: its lines, and the warning about the block it closes. -/
def output (c : Cursor) (t : Transition) : Output :=
  { lines := t.lines
    warnings :=
      if c.state.mode = .insideCodeBlock ∧ t.state.mode = .outside then c.check else [] }

/-- The cursor after the steps on the line of this number, and what they put out. -/
def run (number : Nat) (c : Cursor) : List Transition → Cursor × Output
  | [] => (c, {})
  | t :: ts =>
    let (c', out) := run number (c.move number t) ts
    (c', c.output t ++ out)

def finish (c : Cursor) : Output :=
  ⟨Scrapbox.finish c.state, if c.state.mode = .insideCodeBlock then c.check else []⟩

end Cursor

/-- What the lines from this number on put out. -/
def scan (default : Text) (number : Nat) (c : Cursor) : List Text → Output
  | [] => c.finish
  | line :: rest =>
    let (c', out) := c.run number (steps default c.state line)
    out ++ scan default (number + 1) c' rest

/-- What a whole text puts out, before its lines are joined. -/
def output (default s : Text) : Output := scan default 1 {} s.lines

/-- The text in Markdown, with `default` as the language of blocks that name none. -/
def toMarkdown (default s : Text) : Converted :=
  let out := output default s
  ⟨(Text.ofLines out.lines).trimRight, out.warnings⟩

end Scrapbox

end Dialects
