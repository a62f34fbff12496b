import Dialects.Text.Basic

/-!
# Lines

A text is its lines joined by line feeds. Cutting at the line feeds and joining again gives the
text back (`Text.ofLines_lines`), and so does joining lines free of line feeds and cutting
(`Text.lines_ofLines`).
-/

namespace Dialects

namespace Text

/-- The lines of a text, at least one, without the line feeds between them. -/
def lines (s : Text) : List Text := s.splitOn '\n'

/-- The text of these lines, with a line feed between neighbours. -/
def ofLines (ls : List Text) : Text := ['\n'].intercalate ls

@[simp] theorem ofLines_lines (s : Text) : ofLines s.lines = s := List.intercalate_splitOn '\n'

theorem lines_ofLines {ls : List Text} (h : ∀ l ∈ ls, '\n' ∉ l) (hne : ls ≠ []) :
    lines (ofLines ls) = ls :=
  List.splitOn_intercalate '\n' h hne

theorem lines_ne_nil (s : Text) : s.lines ≠ [] := List.splitOn_ne_nil '\n' s

@[simp] theorem lines_nil : lines [] = [[]] := List.splitOn_nil '\n'

theorem lines_append_newline (s t : Text) : lines (s ++ '\n' :: t) = s.lines ++ t.lines :=
  List.splitOn_append_cons_self s t

theorem lines_of_notMem {s : Text} (h : '\n' ∉ s) : s.lines = [s] := List.splitOn_eq_singleton h

@[simp] theorem lines_cons_newline (s : Text) : lines ('\n' :: s) = [] :: s.lines :=
  lines_append_newline [] s

@[simp] theorem ofLines_nil : ofLines [] = [] := rfl

@[simp] theorem ofLines_singleton (l : Text) : ofLines [l] = l := List.intercalate_singleton

theorem ofLines_cons {l : Text} {ls : List Text} (h : ls ≠ []) :
    ofLines (l :: ls) = l ++ '\n' :: ofLines ls := by
  simp [ofLines, List.intercalate_cons_of_ne_nil h]

theorem ofLines_append {ls ls' : List Text} (h : ls ≠ []) (h' : ls' ≠ []) :
    ofLines (ls ++ ls') = ofLines ls ++ '\n' :: ofLines ls' := by
  induction ls with
  | nil => exact absurd rfl h
  | cons l ls ih =>
    by_cases hls : ls = []
    · simp [hls, ofLines_cons h']
    · rw [List.cons_append, ofLines_cons (by simp [hls]), ih hls, ofLines_cons hls]
      simp

/-- Lines before others are a text that ends in a line feed. -/
theorem ofLines_append_of_ne_nil (ls : List Text) {ls' : List Text} (h : ls' ≠ []) :
    ofLines (ls ++ ls') = ofLines (ls ++ [[]]) ++ ofLines ls' := by
  induction ls with
  | nil => rfl
  | cons l ls ih =>
    rw [List.cons_append, List.cons_append, ofLines_cons (by simp [h]), ofLines_cons (by simp), ih]
    simp

/-- Lines behind others are a text that starts with a line feed. -/
theorem ofLines_append_eq_append {ls : List Text} (h : ls ≠ []) (ls' : List Text) :
    ofLines (ls ++ ls') = ofLines ls ++ ofLines ([] :: ls') := by
  by_cases h' : ls' = []
  · simp [h']
  · rw [ofLines_append h h', ofLines_cons h', List.nil_append]

theorem mem_ofLines {c : Char} (hc : c ≠ '\n') {ls : List Text} :
    c ∈ ofLines ls ↔ ∃ l ∈ ls, c ∈ l := by
  induction ls with
  | nil => simp
  | cons l ls ih =>
    by_cases h : ls = []
    · simp [h]
    · rw [ofLines_cons h, List.mem_append, List.mem_cons, ih]
      simp [hc]

/-- What holds of every single line, and of a line before a text of which it holds, holds of every
text. -/
theorem line_induction {motive : Text → Prop} (last : ∀ line, '\n' ∉ line → motive line)
    (more : ∀ line rest, '\n' ∉ line → motive rest → motive (line ++ '\n' :: rest)) (s : Text) :
    motive s := by
  by_cases h : '\n' ∈ s
  · obtain ⟨line, rest, hs, hline⟩ := List.eq_append_cons_of_mem h
    have : rest.length < s.length := by
      simp only [hs, List.length_append, List.length_cons]
      omega
    exact hs ▸ more line rest hline (line_induction last more rest)
  · exact last s h
termination_by s.length

theorem notMem_of_mem_lines {s line : Text} (h : line ∈ s.lines) : '\n' ∉ line := by
  induction s using line_induction with
  | last s hs =>
    rw [lines_of_notMem hs, List.mem_singleton] at h
    exact h ▸ hs
  | more first rest hfirst ih =>
    rw [lines_append_newline, lines_of_notMem hfirst, List.singleton_append, List.mem_cons] at h
    rcases h with rfl | h
    · exact hfirst
    · exact ih h

/-- What is put before a text goes onto its first line. -/
theorem exists_lines_append {lead : Text} (h : '\n' ∉ lead) (s : Text) :
    ∃ first later, s.lines = first :: later ∧ (lead ++ s).lines = (lead ++ first) :: later := by
  induction s using line_induction with
  | last s hs =>
    refine ⟨s, [], lines_of_notMem hs, lines_of_notMem ?_⟩
    rw [List.mem_append, not_or]
    exact ⟨h, hs⟩
  | more line rest hline _ =>
    refine ⟨line, rest.lines, ?_, ?_⟩
    · rw [lines_append_newline, lines_of_notMem hline, List.singleton_append]
    · rw [← List.append_assoc, lines_append_newline, lines_of_notMem, List.singleton_append]
      rw [List.mem_append, not_or]
      exact ⟨h, hline⟩

end Text

end Dialects
