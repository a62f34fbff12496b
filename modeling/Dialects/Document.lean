import Dialects.CodeBlock
import Dialects.Heading
import Dialects.ListItem
import Dialects.Text.Word

/-!
# Documents

A document is a sequence of blocks, each with its lines in either dialect. In a canonical document
no line could be taken for another kind of block, and no code block runs on into what follows it.
-/

namespace Dialects

namespace Document

inductive Block
  | blank
  | plain (text : Text)
  | heading (heading : Heading) (text : Text)
  | item (level : Nat) (text : Text)
  | code (language : Text) (body : List Text)
  deriving DecidableEq, Repr

namespace Block

def markdownLines : Block → List Text
  | .blank => [[]]
  | .plain t => [t]
  | .heading h t => [h.markdownMark ++ t]
  | .item level t => [ListItem.markdownLead level ++ t]
  | .code language body => (CodeBlock.fence ++ language) :: body ++ [CodeBlock.fence]

def scrapboxLines : Block → List Text
  | .blank => [[]]
  | .plain t => [t]
  | .heading h t => [h.scrapboxMark ++ t]
  | .item level t => [ListItem.scrapboxLead level ++ t]
  | .code language body => (CodeBlock.header ++ language) :: body.map (' ' :: ·)

/-- A text within one line that no inline rule and no fence touches. -/
def IsPlainText (t : Text) : Prop :=
  '[' ∉ t ∧ '*' ∉ t ∧ '\n' ∉ t ∧ ¬ CodeBlock.fence <:+: t

/-- What makes a line more than plain in one of the dialects. -/
def marks : List Text :=
  Heading.all.map Heading.markdownMark ++ Heading.all.map Heading.scrapboxMark
    ++ ListItem.marks.map (·.1) ++ [CodeBlock.header]

/-- A block that is read as the kind of block it is, in either dialect. -/
def IsCanonical : Block → Prop
  | .blank => True
  | .plain t =>
    t ≠ [] ∧ IsPlainText t ∧ (∀ c ∈ t.head?, isBlank c = false) ∧ ∀ mark ∈ marks, ¬ mark <+: t
  | .heading _ t => IsPlainText t
  | .item level t => 0 < level ∧ IsPlainText t ∧ t.head? ≠ some ' '
  | .code language body =>
    language ≠ [] ∧ (∀ c ∈ language, isWord c = true) ∧ (∀ line ∈ body, '\n' ∉ line) ∧
      Text.ofLines body ≠ [] ∧ (∀ c ∈ (Text.ofLines body).getLast?, isBlank c = false) ∧
      ∀ line ∈ body.tail, ¬ CodeBlock.fence <+: line

def isCode : Block → Bool
  | .code _ _ => true
  | _ => false

/-- Does the block end a code block that stands before it, in either dialect? -/
def endsCode : Block → Bool
  | .plain _ | .heading _ _ | .code _ _ => true
  | .blank | .item _ _ => false

end Block

/-- Every block is canonical, and what stands behind a code block ends it. -/
def IsCanonical : List Block → Prop
  | [] => True
  | b :: rest =>
    b.IsCanonical ∧ (b.isCode = true → ∀ next ∈ rest.head?, next.endsCode = true) ∧
      IsCanonical rest

def toMarkdown (blocks : List Block) : Text := Text.ofLines (blocks.flatMap Block.markdownLines)

def toScrapbox (blocks : List Block) : Text := Text.ofLines (blocks.flatMap Block.scrapboxLines)

end Document

end Dialects
