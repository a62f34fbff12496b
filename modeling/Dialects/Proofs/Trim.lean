import Mathlib.Data.List.DropRight
import Dialects.Text.Blank
import Dialects.Text.Lines
import Dialects.Text.Word

/-!
# Blank ends

Trimming takes off a text what is blank at its end, so it ends within the last stretch that is not
all blank (`Text.trimRight_append`), and lines are all blank exactly if their text is
(`Text.isBlank_ofLines`). No word character is blank, so trimming leaves a word alone.
-/

namespace Dialects

theorem isBlank_of_isWord {c : Char} (h : isWord c = true) : isBlank c = false := by
  have hranges : ∀ p ∈ blankRanges, ∀ k ≤ p.2 - p.1, alphanumericRanges.has (p.1 + k) = false := by
    decide +kernel
  by_contra hb
  rw [Bool.not_eq_false] at hb
  obtain ⟨p, hp, hlo, hhi⟩ := Ranges.exists_of_has hb
  have hnone := hranges p hp (c.toNat - p.1) (by omega)
  rw [Nat.add_sub_cancel' hlo] at hnone
  rw [isWord, hnone, Bool.or_false, decide_eq_true_eq] at h
  subst h
  revert hb
  decide

namespace Text

theorem isBlank_append (s t : Text) : isBlank (s ++ t) = (s.isBlank && t.isBlank) := List.all_append

theorem isBlank_cons (c : Char) (s : Text) : isBlank (c :: s) = (Dialects.isBlank c && s.isBlank) :=
  List.all_cons

theorem isBlank_eq_false_of_mem {s : Text} {c : Char} (hc : c ∈ s)
    (h : Dialects.isBlank c = false) : s.isBlank = false :=
  List.all_eq_false.2 ⟨c, hc, by simp [h]⟩

/-- Lines are all blank exactly if their text is: a line feed is blank itself. -/
theorem isBlank_ofLines (ls : List Text) : isBlank (ofLines ls) = ls.all isBlank := by
  induction ls with
  | nil => rfl
  | cons l ls ih =>
    by_cases h : ls = []
    · simp [h]
    · rw [ofLines_cons h, isBlank_append, isBlank_cons, isBlank_newline, Bool.true_and, ih,
        List.all_cons]

theorem isBlank_of_mem_lines {s line : Text} (hs : s.isBlank = true) (h : line ∈ s.lines) :
    line.isBlank = true := by
  rw [← ofLines_lines s, isBlank_ofLines, List.all_eq_true] at hs
  exact hs line h

theorem trimRight_eq_rdropWhile (s : Text) : trimRight s = s.rdropWhile Dialects.isBlank := rfl

theorem trimRight_prefix (s : Text) : trimRight s <+: s := by
  rw [trimRight_eq_rdropWhile]
  exact List.rdropWhile_prefix _ _

theorem exists_eq_trimRight_append (s : Text) :
    ∃ t, s = trimRight s ++ t ∧ ∀ c ∈ t, Dialects.isBlank c = true := by
  refine ⟨s.rtakeWhile Dialects.isBlank, ?_, fun c hc => List.mem_rtakeWhile_imp hc⟩
  rw [trimRight_eq_rdropWhile, List.rdropWhile_append_rtakeWhile]

theorem trimRight_eq_nil_iff {s : Text} : trimRight s = [] ↔ s.isBlank = true := by
  rw [trimRight_eq_rdropWhile, List.rdropWhile_eq_nil_iff, isBlank, List.all_eq_true]

theorem trimRight_of_getLast? {s : Text} (h : ∀ c ∈ s.getLast?, Dialects.isBlank c = false) :
    trimRight s = s := by
  rw [trimRight_eq_rdropWhile, List.rdropWhile_eq_self_iff]
  intro hne
  rw [h _ (List.getLast?_eq_some_getLast hne)]
  simp

/-- Trimming ends within the last stretch that is not all blank. -/
theorem trimRight_append {s t : Text} (h : t.isBlank = false) :
    trimRight (s ++ t) = s ++ trimRight t := by
  have hne : t.reverse.dropWhile Dialects.isBlank ≠ [] := by
    intro hnil
    rw [trimRight_eq_nil_iff.1 (by rw [trimRight, hnil, List.reverse_nil])] at h
    cases h
  rw [trimRight, List.reverse_append, List.dropWhile_append,
    if_neg (by simpa only [List.isEmpty_iff] using hne), List.reverse_append, List.reverse_reverse]
  rfl

theorem trimRight_append_eq_iff {s t : Text} :
    trimRight (s ++ t) = trimRight s ↔ t.isBlank = true := by
  refine ⟨fun h => ?_, trimRight_append_blank⟩
  by_contra hblank
  rw [Bool.not_eq_true] at hblank
  rw [trimRight_append hblank] at h
  have hlen := congrArg List.length h
  have hprefix := trimRight_prefix s
  have hle := hprefix.length_le
  rw [List.length_append] at hlen
  have hnil : trimRight t = [] := List.length_eq_zero_iff.1 (by omega)
  rw [trimRight_eq_nil_iff.1 hnil] at hblank
  cases hblank

theorem trimRight_ofLines_append_eq_iff {ls ls' : List Text} :
    trimRight (ofLines (ls ++ ls')) = trimRight (ofLines ls) ↔ ∀ l ∈ ls', l.isBlank = true := by
  rw [← List.all_eq_true, ← isBlank_ofLines]
  by_cases h : ls = []
  · rw [h, List.nil_append, ofLines_nil]
    exact trimRight_eq_nil_iff
  by_cases h' : ls' = []
  · rw [h', List.append_nil]
    exact iff_of_true rfl rfl
  · rw [ofLines_append h h', trimRight_append_eq_iff, isBlank_cons, isBlank_newline, Bool.true_and]

theorem trimRight_append_of_getLast? {s : Text}
    (h : ∀ c ∈ s.getLast?, Dialects.isBlank c = false) (t : Text) :
    trimRight (s ++ t) = s ++ trimRight t := by
  cases ht : t.isBlank with
  | true =>
    rw [trimRight_append_blank ht, trimRight_of_getLast? h, trimRight_eq_nil_iff.2 ht,
      List.append_nil]
  | false => exact trimRight_append ht

theorem trim_of_isWord {s : Text} (h : ∀ c ∈ s, isWord c = true) : trim s = s := by
  have hleft : trimLeft s = s := by
    cases s with
    | nil => rfl
    | cons c s =>
      exact List.dropWhile_cons_of_neg (by simp [isBlank_of_isWord (h c (by simp))])
  rw [trim, hleft]
  exact trimRight_of_getLast? fun c hc => isBlank_of_isWord (h c (List.mem_of_mem_getLast? hc))

end Text

end Dialects
