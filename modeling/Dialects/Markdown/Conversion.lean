import Dialects.Inline.Rule
import Dialects.Markdown.Fence
import Dialects.Markdown.Line
import Dialects.Warning

/-!
# From Markdown to Scrapbox

Fenced code blocks are taken out first and converted on their own, so no other rule sees their
code. The prose between them goes through the inline rules and then, line by line, through the
rules for headings and lists. What follows a closing fence on its line continues the code's last
line, so there the line rules begin only with the next line.
-/

namespace Dialects

namespace Markdown

inductive ProsePass
  | inline (rule : InlineRule)
  | lineStructure
  deriving DecidableEq, Repr

/-- The steps in the order they are taken. -/
def prosePasses : List ProsePass := InlineRule.all.map .inline ++ [.lineStructure]

def ProsePass.name : ProsePass → Text
  | .inline rule => rule.name
  | .lineStructure => "line_structure".toList

/-- The names of all steps, the conversion of the code blocks included. -/
def passNames : List Text := "code_block".toList :: prosePasses.map ProsePass.name

/-- The prose after one step; `afterCode` says that a code block stands before it. -/
def ProsePass.apply (afterCode : Bool) : ProsePass → Text → Text
  | .inline rule, s => rule.toScrapbox s
  | .lineStructure, s => if afterCode then structureLaterLines s else structureLines s

def convertProse (afterCode : Bool) (s : Text) : Text :=
  prosePasses.foldl (fun s pass => pass.apply afterCode s) s

theorem convertProse_false (s : Text) :
    convertProse false s = structureLines (InlineRule.allToScrapbox s) := rfl

theorem convertProse_true (s : Text) :
    convertProse true s = structureLaterLines (InlineRule.allToScrapbox s) := rfl

/-- The number of fences in these stretches of prose. -/
def fenceCount : List Text → Nat
  | [] => 0
  | s :: stretches => CodeBlock.countFences s + fenceCount stretches

/-- The warning about the fences in these stretches of prose, if there are any. -/
def fenceWarnings (stretches : List Text) : List Warning :=
  match fenceCount stretches with
  | 0 => []
  | count => [.unmatchedFences count]

/-- The text in Scrapbox, with `default` as the language of blocks that name none. -/
def toScrapbox (default s : Text) : Converted :=
  let t := CodeBlock.markdown.split s
  { text := convertProse false t.lead
      ++ t.found.flatMap fun (block, prose) => block.toScrapbox default ++ convertProse true prose
    warnings := fenceWarnings t.stretches }

end Markdown

end Dialects
