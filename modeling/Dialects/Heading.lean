import Dialects.Text.Basic

/-!
# Headings

Headings of level three and two, by the mark that starts their line in either dialect. Scrapbox
has no mark of its own for level three; a heavy black square stands for it.
-/

namespace Dialects

/-- The levels of heading that both dialects have. -/
inductive Heading
  | level3
  | level2
  deriving DecidableEq, Repr

namespace Heading

/-- The headings in the order they are tried. -/
def all : List Heading := [.level3, .level2]

def markdownMark : Heading → Text
  | .level3 => ['#', '#', '#', ' ']
  | .level2 => ['#', '#', ' ']

/-- Level three is a heavy square, `U+2B1B U+FE0F`. -/
def scrapboxMark : Heading → Text
  | .level3 => ['\u2b1b', '\ufe0f', ' ']
  | .level2 => ['#', '#', ' ']

def readMarkdown? (line : Text) : Option (Heading × Text) :=
  all.findSome? fun h => (Text.after? h.markdownMark line).map (h, ·)

def readScrapbox? (line : Text) : Option (Heading × Text) :=
  all.findSome? fun h => (Text.after? h.scrapboxMark line).map (h, ·)

end Heading

end Dialects
