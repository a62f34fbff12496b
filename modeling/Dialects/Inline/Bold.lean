import Dialects.Pattern
import Dialects.Text.Blank

/-!
# Bold text

Markdown sets bold text between two stars and two stars, on one line and with no blank next to the
stars inside. Scrapbox brackets it; a bracket with a parenthesis behind it is a link of the other
dialect and is left alone.
-/

namespace Dialects

namespace Bold

/-- What Markdown sets on either side of bold text. -/
def stars : Text := ['*', '*']

/-- `**text**` -/
def toMarkdown (t : Text) : Text := stars ++ t ++ stars

/-- `[text]` -/
def toScrapbox (t : Text) : Text := '[' :: t ++ [']']

/-- The text up to the nearest stars that stand on this line and not behind a blank; `last` is the
character before it. -/
def close? (last : Char) : Text → Option (Text × Text)
  | [] => none
  | c :: s =>
    match Text.after? stars (c :: s), isBlank last with
    | some rest, false => some ([], rest)
    | _, _ => if c = '\n' then none else (close? c s).map fun (t, rest) => (c :: t, rest)

/-- Reads stars with no blank behind them, and the text up to the stars that close it. -/
def readMarkdown? (s : Text) : Option (Text × Text) := do
  let s ← Text.after? stars s
  if s.head?.any isBlank then none else close? '*' s

/-- Reads a nonempty bracket with no parenthesis behind it. -/
def readScrapbox? (s : Text) : Option (Text × Text) := do
  let s ← Text.after? ['['] s
  let (t, s) ← Text.upTo? ']' s
  if s.head? = some '(' then none else return (t, s)

theorem length_of_close? {last : Char} {s t rest : Text} (h : close? last s = some (t, rest)) :
    rest.length < s.length := by
  induction s generalizing last t rest with
  | nil => simp [close?] at h
  | cons c s ih =>
    simp only [close?] at h
    split at h
    · rename_i heq _
      simp only [Option.some.injEq, Prod.mk.injEq] at h
      rw [Text.after?_eq_some_iff.1 heq, ← h.2]
      simp only [stars, List.length_append, List.length_cons]
      omega
    · split at h
      · simp at h
      · obtain ⟨⟨t', rest'⟩, h', h''⟩ := Option.map_eq_some_iff.1 h
        simp only [Prod.mk.injEq] at h''
        have := ih h'
        simp only [← h''.2, List.length_cons]
        omega

theorem length_of_readMarkdown? {s t rest : Text} (h : readMarkdown? s = some (t, rest)) :
    rest.length < s.length := by
  simp only [readMarkdown?, Option.bind_eq_bind, Option.bind_eq_some_iff,
    Option.ite_none_left_eq_some] at h
  obtain ⟨s₁, h₁, -, h₂⟩ := h
  have := Text.length_of_after? h₁
  have := length_of_close? h₂
  omega

theorem length_of_readScrapbox? {s t rest : Text} (h : readScrapbox? s = some (t, rest)) :
    rest.length < s.length := by
  simp only [readScrapbox?, Option.bind_eq_bind, Option.bind_eq_some_iff, Option.pure_def,
    Option.ite_none_left_eq_some, Option.some.injEq, Prod.mk.injEq] at h
  obtain ⟨s₁, h₁, ⟨_, s₂⟩, h₂, -, -, rfl⟩ := h
  dsimp only at *
  have := Text.length_of_after? h₁
  have := Text.length_of_upTo? h₂
  omega

def markdown : Pattern Text := ⟨readMarkdown?, length_of_readMarkdown?⟩

def scrapbox : Pattern Text := ⟨readScrapbox?, length_of_readScrapbox?⟩

end Bold

end Dialects
