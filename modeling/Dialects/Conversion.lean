import Dialects.Direction
import Dialects.Log
import Dialects.Markdown.Conversion
import Dialects.Scrapbox.Conversion

/-!
# Conversions in a direction

A conversion in a given direction, with the record of its work. A document may also be converted
and the result converted back, in which case it has the warnings of both.
-/

namespace Dialects

namespace Direction

def convert : Direction → Text → Text → Converted
  | .markdownToScrapbox, default, s => Markdown.toScrapbox default s
  | .scrapboxToMarkdown, default, s => Scrapbox.toMarkdown default s

/-- What is logged of a conversion: the number of lines before and after, and its warnings. -/
def records (d : Direction) (s : Text) (result : Converted) : List LogRecord :=
  let counted (t : Text) : Text := (toString (t.count '\n' + 1)).toList ++ " lines".toList
  ⟨.debug, .engine,
      "Converted ".toList ++ d.name ++ ": ".toList ++ counted s ++ " -> ".toList
        ++ counted result.text⟩
    :: result.warnings.map fun w => ⟨.warning, .engine, d.name ++ ": ".toList ++ w.message⟩

end Direction

/-- The document converted in this direction and, with `swap`, back again. -/
def convertDocument (d : Direction) (default : Text) (swap : Bool) (s : Text) : Converted :=
  let there := d.convert default s
  if swap then
    let back := d.reversed.convert default there.text
    ⟨back.text, there.warnings ++ back.warnings⟩
  else there

/-- What is logged of the conversion of a document. -/
def documentRecords (d : Direction) (default : Text) (swap : Bool) (s : Text) : List LogRecord :=
  let there := d.convert default s
  d.records s there
    ++ if swap then d.reversed.records there.text (d.reversed.convert default there.text) else []

end Dialects
