import Dialects.CodeBlock
import Dialects.Scrapbox.Line
import Dialects.Text.Blank
import Dialects.Warning

/-!
# The parts of a Scrapbox text

A Scrapbox text is a sequence of lines and code blocks. A block is a header line with all lines
that follow it as long as they are empty or start with a space, so where a block ends can be seen
from the text alone, with no memory of what a scan did before.
-/

namespace Dialects

namespace Scrapbox

/-- A line outside of all code blocks, or a code block by the number of its header line, its
language, and the lines of its code. -/
inductive Part
  | prose (line : Text)
  | block (number : Nat) (language : Text) (body : List Text)
  deriving DecidableEq, Repr

/-- Does the line belong to the code block that stands before it? -/
def continuesBlock (line : Text) : Bool := line.head?.all (· = ' ')

namespace Part

/-- The parts of the lines from this number on. -/
def ofLines (default : Text) (number : Nat) : List Text → List Part
  | [] => []
  | line :: rest =>
    match Text.after? CodeBlock.header line with
    | none => .prose line :: ofLines default (number + 1) rest
    | some name =>
      .block number (CodeBlock.languageOr default name.trim)
          ((rest.takeWhile continuesBlock).map (·.drop 1))
        :: ofLines default (number + 1 + (rest.takeWhile continuesBlock).length)
          (rest.dropWhile continuesBlock)
termination_by lines => lines.length
decreasing_by
  · simp
  · have := (List.dropWhile_sublist continuesBlock (l := rest)).length_le
    simp only [List.length_cons]
    omega

/-- The code of a block in one text, without the blanks at its end. -/
def code (body : List Text) : Text := (Text.ofLines body).trimRight

def markdownLines : Part → List Text
  | .prose line => [convertLine line]
  | .block _ language body =>
    (CodeBlock.fence ++ language) :: (if code body = [] then [] else (code body).lines)
      ++ [CodeBlock.fence]

/-- The warning about a block with nothing but blanks in it. -/
def warnings : Part → List Warning
  | .prose _ => []
  | .block number language body =>
    if (Text.ofLines body).isBlank then [.emptyBlock language number] else []

end Part

end Scrapbox

end Dialects
