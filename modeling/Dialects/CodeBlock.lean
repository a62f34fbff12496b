import Dialects.Text.Lines

/-!
# Code blocks

A code block is a language and a body. Markdown sets the body between fences, the opening one
followed by the language; Scrapbox heads it with `code:` and the language and indents each of its
lines by a space. A block that names no language is given the default one.
-/

namespace Dialects

/-- A language and the lines of code in one text. -/
structure CodeBlock where
  language : Text
  body : Text
  deriving DecidableEq, Repr

namespace CodeBlock

def fence : Text := ['\x60', '\x60', '\x60']

/-- What a code block starts with in Scrapbox. -/
def header : Text := ['c', 'o', 'd', 'e', ':']

/-- The language of a block that names none, unless the configuration has another. -/
def usualLanguage : Text := ['t', 'e', 'x', 't']

/-- The named language, or the default one if no name is given. -/
def languageOr (default name : Text) : Text := if name = [] then default else name

def scrapboxLines (default : Text) (b : CodeBlock) : List Text :=
  (header ++ languageOr default b.language) :: b.body.lines.map (' ' :: ·)

def toScrapbox (default : Text) (b : CodeBlock) : Text := Text.ofLines (b.scrapboxLines default)

/-- The lines of the block in Markdown; an empty body has no line. -/
def markdownLines (b : CodeBlock) : List Text :=
  (fence ++ b.language) :: (if b.body = [] then [] else b.body.lines) ++ [fence]

end CodeBlock

end Dialects
