/-!
# Sets of characters by code point

A set of characters is a list of closed intervals of code points, ascending and apart, so a search
stops at the first interval past the character.
-/

namespace Dialects

/-- Closed intervals of code points, ascending and apart. -/
abbrev Ranges := List (Nat × Nat)

def Ranges.has : Ranges → Nat → Bool
  | [], _ => false
  | (first, last) :: rest, n => if n < first then false else n ≤ last || Ranges.has rest n

theorem Ranges.has_head {first last n : Nat} {r : Ranges} (h₁ : first ≤ n) (h₂ : n ≤ last) :
    has ((first, last) :: r) n = true := by
  rw [has, if_neg (by omega), decide_eq_true h₂, Bool.true_or]

theorem Ranges.has_tail {first last n : Nat} {r : Ranges} (h₁ : first ≤ n) (h₂ : r.has n = true) :
    has ((first, last) :: r) n = true := by
  rw [has, if_neg (by omega), h₂, Bool.or_true]

/-- What a set has lies in one of its intervals. -/
theorem Ranges.exists_of_has {n : Nat} :
    ∀ {r : Ranges}, r.has n = true → ∃ p ∈ r, p.1 ≤ n ∧ n ≤ p.2
  | [], h => by simp [has] at h
  | (first, last) :: rest, h => by
    simp only [has] at h
    split at h
    · simp at h
    · simp only [Bool.or_eq_true, decide_eq_true_eq] at h
      rcases h with h | h
      · exact ⟨(first, last), by simp, by simp only; omega, h⟩
      · obtain ⟨p, hp, hn⟩ := exists_of_has h
        exact ⟨p, by simp [hp], hn⟩

end Dialects
