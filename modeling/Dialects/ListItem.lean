import Dialects.Text.Blank

/-!
# List items

A list item has a level, counted from one. Scrapbox indents it by as many spaces. Markdown marks
levels one and two with a dash or two, and writes any deeper level as an indented dash, two columns
to a level; the two ways of counting agree (`ListItem.levelOfIndent_indentOfLevel`).
-/

namespace Dialects

namespace ListItem

/-- The level of a dash behind this indent: every two characters count one. -/
def levelOfIndent (indent : Text) : Nat := indent.length / 2 + 1

/-- The indent of a dash that stands for this level. -/
def indentOfLevel (level : Nat) : Text := List.replicate (2 * (level - 1)) ' '

/-- The marks that stand for a level without an indent, the longer first. -/
def marks : List (Text × Nat) := [(['-', '-', ' '], 2), (['-', ' '], 1)]

/-- What stands before an item of this level in Scrapbox. -/
def scrapboxLead (level : Nat) : Text := List.replicate level ' '

/-- What stands before an item of this level in Markdown. -/
def markdownLead (level : Nat) : Text :=
  match marks.find? fun (_, n) => n = level with
  | some (mark, _) => mark
  | none => indentOfLevel level ++ ['-', ' ']

/-- The number of spaces a line starts with, which is its level in Scrapbox. -/
def scrapboxLevel (line : Text) : Nat := (line.takeWhile (· = ' ')).length

/-- Reads a dash behind two or more blanks. -/
def readIndented? (line : Text) : Option (Nat × Text) :=
  let indent := line.takeWhile isBlank
  if indent.length < 2 then none
  else (Text.after? ['-', ' '] (line.dropWhile isBlank)).map (levelOfIndent indent, ·)

def readMarked? (line : Text) : Option (Nat × Text) :=
  marks.findSome? fun (mark, level) => (Text.after? mark line).map (level, ·)

/-- The level of a Markdown line that is a list item, and its text. -/
def readMarkdown? (line : Text) : Option (Nat × Text) := readIndented? line <|> readMarked? line

/-- The level of a Scrapbox line that is a list item, and its text. -/
def readScrapbox? (line : Text) : Option (Nat × Text) :=
  if scrapboxLevel line = 0 then none
  else some (scrapboxLevel line, line.drop (scrapboxLevel line))

theorem levelOfIndent_indentOfLevel {level : Nat} (h : 0 < level) :
    levelOfIndent (indentOfLevel level) = level := by
  simp only [levelOfIndent, indentOfLevel, List.length_replicate]
  omega

end ListItem

end Dialects
