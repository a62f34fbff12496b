import Dialects.Inline.Bold
import Dialects.Inline.Link

/-!
# Inline rules

The notations within a line, each with its conversion in either direction. Links come before bold
text in both directions: bold text would otherwise take the brackets of a link.
-/

namespace Dialects

inductive InlineRule
  | link
  | bold
  deriving DecidableEq, Repr

namespace InlineRule

/-- The rules in the order they are applied. -/
def all : List InlineRule := [.link, .bold]

def name : InlineRule → Text
  | .link => "link".toList
  | .bold => "bold".toList

/-- The Markdown text with this notation in Scrapbox's form. -/
def toScrapbox : InlineRule → Text → Text
  | .link => Link.markdown.replace Link.toScrapbox
  | .bold => Bold.markdown.replace Bold.toScrapbox

/-- The Scrapbox text with this notation in Markdown's form. -/
def toMarkdown : InlineRule → Text → Text
  | .link => Link.scrapbox.replace Link.toMarkdown
  | .bold => Bold.scrapbox.replace Bold.toMarkdown

/-- The Markdown text with every inline notation in Scrapbox's form. -/
def allToScrapbox (s : Text) : Text := all.foldl (fun s rule => rule.toScrapbox s) s

/-- The Scrapbox text with every inline notation in Markdown's form. -/
def allToMarkdown (s : Text) : Text := all.foldl (fun s rule => rule.toMarkdown s) s

theorem allToScrapbox_eq (s : Text) :
    allToScrapbox s = toScrapbox .bold (toScrapbox .link s) := rfl

theorem allToMarkdown_eq (s : Text) : allToMarkdown s = toMarkdown .bold (toMarkdown .link s) :=
  rfl

end InlineRule

end Dialects
