import Dialects.CodeBlock
import Dialects.Pattern
import Dialects.Text.Word

/-!
# Fenced code blocks

A fenced block is a fence, a language of word characters, a line feed, a body of at least one
character, and a line feed with a fence; the body is as short as it can be. A fence that opens no
block by this rule belongs to the prose.
-/

namespace Dialects

namespace CodeBlock

def close : Text := '\n' :: fence

def toMarkdown (b : CodeBlock) : Text := fence ++ b.language ++ '\n' :: b.body ++ close

/-- The nonempty text up to the nearest closing fence. -/
def readBody? : Text → Option (Text × Text)
  | [] => none
  | c :: s =>
    match Text.after? close s with
    | some rest => some ([c], rest)
    | none => (readBody? s).map fun (body, rest) => (c :: body, rest)

def readMarkdown? (s : Text) : Option (CodeBlock × Text) := do
  let s ← Text.after? fence s
  let s' ← Text.after? ['\n'] (s.dropWhile isWord)
  let (body, rest) ← readBody? s'
  return (⟨s.takeWhile isWord, body⟩, rest)

theorem readBody?_append {s body rest : Text} (h : readBody? s = some (body, rest)) :
    s = body ++ close ++ rest := by
  induction s generalizing body rest with
  | nil => simp [readBody?] at h
  | cons c s ih =>
    simp only [readBody?] at h
    split at h
    · rename_i heq
      simp only [Option.some.injEq, Prod.mk.injEq] at h
      obtain ⟨rfl, rfl⟩ := h
      simp [Text.after?_eq_some_iff.1 heq]
    · obtain ⟨⟨body', rest'⟩, h', h''⟩ := Option.map_eq_some_iff.1 h
      simp only [Prod.mk.injEq] at h''
      obtain ⟨rfl, rfl⟩ := h''
      rw [ih h']
      simp

theorem length_of_readMarkdown? {s rest : Text} {b : CodeBlock}
    (h : readMarkdown? s = some (b, rest)) : rest.length < s.length := by
  simp only [readMarkdown?, Option.bind_eq_bind, Option.bind_eq_some_iff, Option.pure_def,
    Option.some.injEq, Prod.mk.injEq] at h
  obtain ⟨s₁, h₁, s₂, h₂, ⟨body, s₃⟩, h₃, -, rfl⟩ := h
  dsimp only at *
  have := Text.length_of_after? h₁
  have := Text.length_of_after? h₂
  have := (List.dropWhile_sublist isWord (l := s₁)).length_le
  have hbody := congrArg List.length (readBody?_append h₃)
  simp only [close, List.length_append, List.length_cons] at hbody
  omega

def markdown : Pattern CodeBlock := ⟨readMarkdown?, length_of_readMarkdown?⟩

/-- The number of fences in a text, counted from the left without overlap. -/
def countFences : Text → Nat
  | '\x60' :: '\x60' :: '\x60' :: s => countFences s + 1
  | _ :: s => countFences s
  | [] => 0

end CodeBlock

end Dialects
