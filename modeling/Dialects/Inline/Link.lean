import Dialects.Pattern
import Dialects.Text.Blank

/-!
# Links

Markdown writes a link `[label](url)` and Scrapbox `[url label]`. Scrapbox also brackets bold text,
so there only an `http` or `https` address followed by a blank makes a link.
-/

namespace Dialects

/-- A labelled address. -/
structure Link where
  label : Text
  url : Text
  deriving DecidableEq, Repr

namespace Link

/-- `[label](url)` -/
def toMarkdown (l : Link) : Text := '[' :: l.label ++ [']', '('] ++ l.url ++ [')']

/-- `[url label]` -/
def toScrapbox (l : Link) : Text := '[' :: l.url ++ [' '] ++ l.label ++ [']']

/-- Reads a bracketed label and, next to it, an address in parentheses. -/
def readMarkdown? (s : Text) : Option (Link × Text) := do
  let s ← Text.after? ['['] s
  let (label, s) ← Text.upTo? ']' s
  let s ← Text.after? ['('] s
  let (url, s) ← Text.upTo? ')' s
  return (⟨label, url⟩, s)

def schemes : List Text :=
  [['h', 't', 't', 'p', ':', '/', '/'], ['h', 't', 't', 'p', 's', ':', '/', '/']]

/-- Reads an address: a scheme and at least one character that is neither blank nor `]`. -/
def readUrl? (s : Text) : Option (Text × Text) := do
  let (scheme, s) ← schemes.findSome? fun scheme => (Text.after? scheme s).map (scheme, ·)
  let place := s.takeWhile fun c => !isBlank c && c ≠ ']'
  if place = [] then none
  else return (scheme ++ place, s.dropWhile fun c => !isBlank c && c ≠ ']')

/-- The rest of a text that starts with a blank. -/
def afterBlank? : Text → Option Text
  | c :: s => if isBlank c then some s else none
  | [] => none

/-- Reads a bracket that holds an address, one blank and a label. -/
def readScrapbox? (s : Text) : Option (Link × Text) := do
  let s ← Text.after? ['['] s
  let (url, s) ← readUrl? s
  let s ← afterBlank? s
  let (label, s) ← Text.upTo? ']' s
  return (⟨label, url⟩, s)

theorem length_of_readMarkdown? {s rest : Text} {l : Link} (h : readMarkdown? s = some (l, rest)) :
    rest.length < s.length := by
  simp only [readMarkdown?, Option.bind_eq_bind, Option.bind_eq_some_iff, Option.pure_def,
    Option.some.injEq, Prod.mk.injEq] at h
  obtain ⟨s₁, h₁, ⟨_, s₂⟩, h₂, s₃, h₃, ⟨_, s₄⟩, h₄, -, rfl⟩ := h
  dsimp only at *
  have := Text.length_of_after? h₁
  have := Text.length_of_upTo? h₂
  have := Text.length_of_after? h₃
  have := Text.length_of_upTo? h₄
  omega

theorem length_of_readUrl? {s rest url : Text} (h : readUrl? s = some (url, rest)) :
    rest.length ≤ s.length := by
  simp only [readUrl?, Option.bind_eq_bind, Option.bind_eq_some_iff, Option.pure_def,
    Option.ite_none_left_eq_some, Option.some.injEq, Prod.mk.injEq] at h
  obtain ⟨⟨scheme, s₁⟩, h₁, -, -, rfl⟩ := h
  obtain ⟨scheme', -, h₁⟩ := List.exists_of_findSome?_eq_some h₁
  obtain ⟨s₂, h₂, h₃⟩ := Option.map_eq_some_iff.1 h₁
  simp only [Prod.mk.injEq] at h₃
  obtain ⟨-, rfl⟩ := h₃
  dsimp only at *
  have := Text.length_of_after? h₂
  have := (List.dropWhile_sublist (fun c => !isBlank c && c ≠ ']') (l := s₂)).length_le
  omega

theorem length_of_afterBlank? {s rest : Text} (h : afterBlank? s = some rest) :
    rest.length < s.length := by
  cases s with
  | nil => simp [afterBlank?] at h
  | cons c s =>
    simp only [afterBlank?, Option.ite_none_right_eq_some, Option.some.injEq] at h
    simp [← h.2]

theorem length_of_readScrapbox? {s rest : Text} {l : Link} (h : readScrapbox? s = some (l, rest)) :
    rest.length < s.length := by
  simp only [readScrapbox?, Option.bind_eq_bind, Option.bind_eq_some_iff, Option.pure_def,
    Option.some.injEq, Prod.mk.injEq] at h
  obtain ⟨s₁, h₁, ⟨_, s₂⟩, h₂, s₃, h₃, ⟨_, s₄⟩, h₄, -, rfl⟩ := h
  dsimp only at *
  have := Text.length_of_after? h₁
  have := length_of_readUrl? h₂
  have := length_of_afterBlank? h₃
  have := Text.length_of_upTo? h₄
  omega

def markdown : Pattern Link := ⟨readMarkdown?, length_of_readMarkdown?⟩

def scrapbox : Pattern Link := ⟨readScrapbox?, length_of_readScrapbox?⟩

end Link

end Dialects
