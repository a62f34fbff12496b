import Dialects.Heading
import Dialects.ListItem
import Dialects.Text.Lines

/-!
# The structure of Markdown lines

A heading or a list item in Markdown takes Scrapbox's form; a line that is neither stays as it is.
-/

namespace Dialects

namespace Markdown

/-- The line with its heading or list mark in Scrapbox's form. -/
def structureLine (line : Text) : Text :=
  match Heading.readMarkdown? line with
  | some (heading, text) => heading.scrapboxMark ++ text
  | none =>
    match ListItem.readMarkdown? line with
    | some (level, text) => ListItem.scrapboxLead level ++ text
    | none => line

/-- The text with every line restructured. -/
def structureLines (s : Text) : Text := Text.ofLines (s.lines.map structureLine)

/-- The text with every line but the first restructured. -/
def structureLaterLines (s : Text) : Text :=
  match s.lines with
  | [] => []
  | line :: later => Text.ofLines (line :: later.map structureLine)

end Markdown

end Dialects
