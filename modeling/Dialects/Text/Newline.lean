import Dialects.Text.Basic

/-!
# Line ends

Files end their lines in a line feed, a carriage return, or both together. Reading turns each of
these into a line feed.
-/

namespace Dialects

namespace Text

/-- The text with every line end written as a line feed. -/
def unifyNewlines : Text → Text
  | '\r' :: '\n' :: s => '\n' :: unifyNewlines s
  | '\r' :: s => '\n' :: unifyNewlines s
  | c :: s => c :: unifyNewlines s
  | [] => []

/-- A text without carriage returns is read as it is. -/
theorem unifyNewlines_of_notMem {s : Text} (h : '\r' ∉ s) : unifyNewlines s = s := by
  induction s with
  | nil => rfl
  | cons c s ih =>
    simp only [List.mem_cons, not_or] at h
    rw [unifyNewlines, ih h.2]
    · rintro s' rfl rfl
      exact h.1 rfl
    · rintro rfl
      exact h.1 rfl

end Text

end Dialects
