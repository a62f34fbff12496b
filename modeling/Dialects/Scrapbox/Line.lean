import Dialects.Heading
import Dialects.Inline.Rule
import Dialects.ListItem

/-!
# Scrapbox lines

Outside a code block a Scrapbox line is converted on its own: first the inline rules, then its
heading mark or its indent.
-/

namespace Dialects

namespace Scrapbox

/-- The line with its heading mark or its indent in Markdown's form. -/
def structureLine (line : Text) : Text :=
  match Heading.readScrapbox? line with
  | some (heading, text) => heading.markdownMark ++ text
  | none =>
    match ListItem.readScrapbox? line with
    | some (level, text) => ListItem.markdownLead level ++ text
    | none => line

def convertLine (line : Text) : Text := structureLine (InlineRule.allToMarkdown line)

end Scrapbox

end Dialects
