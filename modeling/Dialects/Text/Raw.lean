import Dialects.Text.Quoted

/-!
# Raw texts

An escape can write a surrogate, which is a code point and yet no character. A raw text may hold
such code points, and is a text only if it has none (`RawText.toText?_eq_some_iff`). Between quotes
it shows them by their numbers.
-/

namespace Dialects

/-- A code point: a character, or a surrogate. -/
inductive CodePoint
  | char (c : Char)
  | surrogate (n : Nat)
  deriving DecidableEq, Repr

def CodePoint.char? : CodePoint → Option Char
  | .char c => some c
  | .surrogate _ => none

/-- A sequence of code points, surrogates among them. -/
abbrev RawText := List CodePoint

def Text.raw (s : Text) : RawText := s.map .char

namespace RawText

/-- The text that a raw text is, if it has no surrogate. -/
def toText? : RawText → Option Text
  | [] => some []
  | p :: s =>
    match p.char?, toText? s with
    | some c, some t => some (c :: t)
    | _, _ => none

theorem toText?_eq_some_iff {t : Text} : ∀ {s : RawText}, toText? s = some t ↔ s = t.raw
  | [] => by cases t <;> simp [toText?, Text.raw]
  | .surrogate n :: s => by cases t <;> simp [toText?, CodePoint.char?, Text.raw]
  | .char c :: s => by
    cases t with
    | nil => cases h : toText? s <;> simp [toText?, CodePoint.char?, Text.raw, h]
    | cons d t =>
      have ih := toText?_eq_some_iff (t := t) (s := s)
      cases h : toText? s with
      | none =>
        simp only [h, reduceCtorEq, false_iff] at ih
        simp [toText?, CodePoint.char?, Text.raw, h]
        exact fun _ => ih
      | some u =>
        simp only [h, Option.some.injEq] at ih
        simp [toText?, CodePoint.char?, Text.raw, h]
        exact fun _ => ih

@[simp] theorem toText?_raw (t : Text) : toText? t.raw = some t := toText?_eq_some_iff.2 rfl

def quotePoint (quote : Char) : CodePoint → Text
  | .char c => quoteChar quote c
  | .surrogate n => ['\\', 'u'] ++ hexDigits 4 n

def quoted (s : RawText) : Text :=
  let quote := quoteFor (s.filterMap CodePoint.char?)
  [quote] ++ s.flatMap (quotePoint quote) ++ [quote]

/-- A text is quoted alike as a raw one. -/
theorem quoted_raw (t : Text) : quoted t.raw = t.quoted := by
  have hchars : t.raw.filterMap CodePoint.char? = t := by
    induction t with
    | nil => rfl
    | cons c t ih => simpa [Text.raw, CodePoint.char?] using ih
  have hpoints (q : Char) : t.raw.flatMap (quotePoint q) = t.flatMap (quoteChar q) := by
    simp [Text.raw, List.flatMap_map, quotePoint]
  simp only [quoted, Text.quoted, hchars, hpoints]

end RawText

end Dialects
