import Dialects.Text.Basic
import Dialects.Text.Ranges

/-!
# Blank characters

The white space of every script, line feed included, and the trimming of it from the ends of a
text. The zero-width space and the byte order mark are not blank.
-/

namespace Dialects

/-- The code points that count as white space. -/
def blankRanges : Ranges :=
  [(0x9, 0xd), (0x1c, 0x20), (0x85, 0x85), (0xa0, 0xa0), (0x1680, 0x1680), (0x2000, 0x200a),
    (0x2028, 0x2029), (0x202f, 0x202f), (0x205f, 0x205f), (0x3000, 0x3000)]

def isBlank (c : Char) : Bool := blankRanges.has c.toNat

theorem isBlank_space : isBlank ' ' = true := by decide

theorem isBlank_newline : isBlank '\n' = true := by decide

theorem ne_of_isBlank {c d : Char} (hc : isBlank c = false) (hd : isBlank d = true) : c ≠ d := by
  rintro rfl
  rw [hc] at hd
  cases hd

/-- What core calls white space is blank. -/
theorem isBlank_of_isWhitespace {c : Char} (h : c.isWhitespace = true) : isBlank c = true := by
  simp only [Char.isWhitespace, Bool.or_eq_true, decide_eq_true_eq] at h
  rcases h with ((rfl | rfl) | rfl) | rfl <;> decide

namespace Text

def trimLeft (s : Text) : Text := s.dropWhile isBlank

def trimRight (s : Text) : Text := (s.reverse.dropWhile isBlank).reverse

def trim (s : Text) : Text := s.trimLeft.trimRight

def isBlank (s : Text) : Bool := s.all Dialects.isBlank

theorem trimRight_append_blank {s w : Text} (h : w.isBlank = true) :
    trimRight (s ++ w) = trimRight s := by
  have hw : ∀ c ∈ w.reverse, Dialects.isBlank c = true := by
    simpa [Text.isBlank] using h
  simp only [trimRight, List.reverse_append]
  rw [List.dropWhile_append_of_pos hw]

end Text

end Dialects
