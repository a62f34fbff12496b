import Dialects.Inline.Rule

/-!
# Spans

A line as a sequence of spans: plain text, bold text and links. Each span has a form in either
dialect. Spans are flat if no notation stands within another and none of their characters could be
taken for a notation.
-/

namespace Dialects

inductive Span
  | plain (text : Text)
  | bold (text : Text)
  | link (link : Link)
  deriving DecidableEq, Repr

namespace Span

def toMarkdown : Span → Text
  | .plain t => t
  | .bold t => Bold.toMarkdown t
  | .link l => l.toMarkdown

def toScrapbox : Span → Text
  | .plain t => t
  | .bold t => Bold.toScrapbox t
  | .link l => l.toScrapbox

def markdownLine (spans : List Span) : Text := spans.flatMap toMarkdown

def scrapboxLine (spans : List Span) : Text := spans.flatMap toScrapbox

/-- No character of the text is part of a notation. -/
def IsFlatText (t : Text) : Prop := ∀ c ∈ t, c ∉ ['[', ']', '*', '\n']

/-- An address that both dialects end where it ends. -/
def IsFlatUrl (url : Text) : Prop :=
  ∃ scheme ∈ Link.schemes, ∃ place, url = scheme ++ place ∧ place ≠ [] ∧
    ∀ c ∈ place, isBlank c = false ∧ c ∉ ['[', ']', ')', '*']

/-- A span that no rule could take for another. -/
def IsFlat : Span → Prop
  | .plain t => IsFlatText t
  | .bold t =>
    t ≠ [] ∧ IsFlatText t ∧ (∀ c ∈ t.head?, isBlank c = false) ∧
      (∀ c ∈ t.getLast?, isBlank c = false) ∧ ∀ scheme ∈ Link.schemes, ¬ scheme <+: t
  | .link l => l.label ≠ [] ∧ IsFlatText l.label ∧ IsFlatUrl l.url

/-- Bold text with a parenthesis behind it would look like a link in Markdown's form. -/
def NoParenthesisAfterBold : List Span → Prop
  | [] => True
  | .bold _ :: rest => (scrapboxLine rest).head? ≠ some '(' ∧ NoParenthesisAfterBold rest
  | _ :: rest => NoParenthesisAfterBold rest

end Span

end Dialects
