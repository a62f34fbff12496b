import Dialects.Markdown.Conversion
import Dialects.Proofs.Occurrence

/-!
# Prose line by line

Bold text ends on the line it starts on (`Bold.markdown_staysOnLine`), and lines are restructured
one at a time. Links alone can reach over a line feed. So prose is converted apart on either side of
a line feed if no bracket stands in front of it (`Markdown.convertProse_append_newline`).
-/

namespace Dialects

theorem Text.after?_append_cons {lead : Text} {c : Char} (hc : c ∉ lead) (u s : Text) :
    after? lead (u ++ c :: s) = (after? lead u).map (· ++ c :: s) := by
  induction lead generalizing u with
  | nil => rfl
  | cons d lead ih =>
    rw [List.mem_cons, not_or] at hc
    cases u with
    | nil => simp [after?, Ne.symm hc.1]
    | cons e u =>
      rw [List.cons_append, after?, after?]
      split
      · exact ih hc.2 u
      · rfl

theorem Text.append_cons_inj {c : Char} {u v s t : Text} (hu : c ∉ u) (hv : c ∉ v)
    (h : u ++ c :: s = v ++ c :: t) : u = v ∧ s = t := by
  induction u generalizing v with
  | nil =>
    cases v with
    | nil => exact ⟨rfl, (List.cons.inj h).2⟩
    | cons d v => exact absurd (List.cons.inj h).1 fun hd => hv (hd ▸ List.mem_cons_self)
  | cons e u ih =>
    cases v with
    | nil => exact absurd (List.cons.inj h).1 fun he => hu (he ▸ List.mem_cons_self)
    | cons d v =>
      rw [List.mem_cons, not_or] at hu hv
      simp only [List.cons_append, List.cons.injEq] at h
      obtain ⟨rfl, rfl⟩ := ih hu.2 hv.2 h.2
      exact ⟨by rw [h.1], rfl⟩

theorem Text.exists_eq_append_cons_of_notMem_left {c : Char} {u s v t : Text} (hu : c ∉ u)
    (h : u ++ s = v ++ c :: t) : ∃ w, s = w ++ c :: t := by
  rcases List.append_eq_append_iff.1 h with ⟨w, -, hw⟩ | ⟨w, rfl, hw⟩
  · exact ⟨w, hw⟩
  · cases w with
    | nil => exact ⟨[], hw.symm⟩
    | cons d w =>
      obtain ⟨rfl, -⟩ := List.cons.inj hw
      simp at hu

theorem Text.exists_eq_append_cons_of_notMem_right {c : Char} {s t u v : Text} (ht : c ∉ t)
    (h : s ++ t = u ++ c :: v) : ∃ w, s = u ++ c :: w := by
  rcases List.append_eq_append_iff.1 h with ⟨w, rfl, rfl⟩ | ⟨w, rfl, hw⟩
  · simp at ht
  · cases w with
    | nil =>
      rw [List.nil_append] at hw
      simp [← hw] at ht
    | cons d w =>
      obtain ⟨rfl, -⟩ := List.cons.inj hw
      exact ⟨w, rfl⟩

namespace Pattern

/-- An occurrence in front of a line feed is found without a look at what is behind it. -/
def StaysOnLine {α : Type} (p : Pattern α) : Prop :=
  ∀ u s, p.read? (u ++ '\n' :: s) = (p.read? u).map fun (a, rest) => (a, rest ++ '\n' :: s)

theorem read?_nil {α : Type} (p : Pattern α) : p.read? [] = none := by
  rcases hr : p.read? [] with _ | ⟨a, rest⟩
  · rfl
  · have := p.shorter hr
    simp at this

theorem StaysOnLine.replace_append_newline {α : Type} {p : Pattern α} {write : α → Text}
    (hp : p.StaysOnLine) (u s : Text) :
    p.replace write (u ++ '\n' :: s) = p.replace write u ++ '\n' :: p.replace write s := by
  induction u using Pattern.split_induction p with
  | nil =>
    have hnone : p.read? ('\n' :: s) = none := by
      have h := hp [] s
      rwa [read?_nil, Option.map_none] at h
    rw [List.nil_append, replace_of_none hnone, replace_nil, List.nil_append]
  | read c u a rest hr ih =>
    have hread : p.read? (c :: u ++ '\n' :: s) = some (a, rest ++ '\n' :: s) := by
      rw [hp (c :: u) s, hr, Option.map_some]
    rw [replace_of_read? hread, ih, replace_of_read? hr, List.append_assoc]
  | other c u hr ih =>
    have hread : p.read? (c :: (u ++ '\n' :: s)) = none := by
      have h := hp (c :: u) s
      rwa [hr, Option.map_none] at h
    rw [List.cons_append, replace_of_none hread, ih, replace_of_none hr, List.cons_append]

end Pattern

namespace Bold

theorem close?_append_newline (last : Char) (u s : Text) :
    close? last (u ++ '\n' :: s) = (close? last u).map fun (t, rest) => (t, rest ++ '\n' :: s) := by
  have hstars : '\n' ∉ stars := by decide
  induction u generalizing last with
  | nil =>
    have hnone : Text.after? stars ('\n' :: s) = none := by simp [stars, Text.after?]
    simp [close?, hnone]
  | cons c u ih =>
    have hafter := Text.after?_append_cons hstars (c :: u) s
    have hmore : (if c = '\n' then none
          else (close? c (u ++ '\n' :: s)).map fun p => (c :: p.1, p.2))
        = (if c = '\n' then none else (close? c u).map fun p => (c :: p.1, p.2)).map
            fun p => (p.1, p.2 ++ '\n' :: s) := by
      split
      · rfl
      · rw [ih, Option.map_map, Option.map_map]
        rfl
    rw [List.cons_append] at hafter ⊢
    rw [close?, close?, hafter]
    rcases Text.after? stars (c :: u) with _ | rest
    · exact hmore
    · cases isBlank last with
      | true => exact hmore
      | false => rfl

theorem markdown_staysOnLine : markdown.StaysOnLine := by
  intro u s
  have hstars : '\n' ∉ stars := by decide
  have hafter := Text.after?_append_cons hstars u s
  simp only [markdown, readMarkdown?, hafter]
  rcases Text.after? stars u with _ | v
  · rfl
  cases v with
  | nil => simp [isBlank_newline, close?]
  | cons c v =>
    cases hblank : isBlank c with
    | true => simp [hblank]
    | false =>
      have hclose := close?_append_newline '*' (c :: v) s
      simpa [hblank] using hclose

end Bold

namespace Markdown

theorem structureLines_append_newline (u s : Text) :
    structureLines (u ++ '\n' :: s) = structureLines u ++ '\n' :: structureLines s := by
  have hne : ∀ t : Text, t.lines.map structureLine ≠ [] := fun t => by simpa using t.lines_ne_nil
  rw [structureLines, Text.lines_append_newline, List.map_append,
    Text.ofLines_append (hne u) (hne s)]
  rfl

theorem structureLaterLines_append_newline (u s : Text) :
    structureLaterLines (u ++ '\n' :: s) = structureLaterLines u ++ '\n' :: structureLines s := by
  have hne : s.lines.map structureLine ≠ [] := by simpa using s.lines_ne_nil
  obtain ⟨line, later, hlines⟩ := List.exists_cons_of_ne_nil u.lines_ne_nil
  rw [structureLaterLines, structureLaterLines, Text.lines_append_newline, hlines]
  simp only [List.cons_append, List.map_append]
  rw [← List.cons_append, Text.ofLines_append (by simp) hne]
  rfl

theorem convertProse_append_newline {u : Text} (h : '[' ∉ u) (s : Text) :
    convertProse false (u ++ '\n' :: s) = convertProse false u ++ '\n' :: convertProse false s := by
  have hlink : '[' ∉ u ++ ['\n'] := by simp [h]
  have hsplit : u ++ '\n' :: s = u ++ ['\n'] ++ s := by simp
  simp only [convertProse_false, InlineRule.allToScrapbox_eq, InlineRule.toScrapbox]
  rw [hsplit, Link.markdown_startsWith.replace_append hlink,
    Link.markdown_startsWith.replace_of_notMem h, List.append_assoc, List.singleton_append,
    Bold.markdown_staysOnLine.replace_append_newline, structureLines_append_newline]

end Markdown

end Dialects
