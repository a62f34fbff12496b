import Mathlib.Data.List.TakeWhile
import Mathlib.Tactic.SplitIfs
import Dialects.Markdown.Line
import Dialects.Scrapbox.Line

/-!
# The forms of a line

A Markdown line is a heading or a list item exactly if it starts with a mark or a lead of that
form (`Heading.readMarkdown?_eq_some_iff`, `ListItem.readMarkdown?_eq_some_iff`), and what stands
behind is its text. Marks and leads are made of number signs, dashes and blanks alone, so what a
line is shows in front of its first other character (`Markdown.exists_structureLine_append`).
-/

namespace Dialects

/-- What does not have a character in it does not reach over that character. -/
theorem Text.prefix_append_cons_iff {lead : Text} {c : Char} (hc : c ∉ lead) (u w : Text) :
    lead <+: u ++ c :: w ↔ lead <+: u := by
  refine ⟨fun h => ?_, fun h => h.trans (List.prefix_append u _)⟩
  rcases List.prefix_or_prefix_of_prefix h (List.prefix_append u (c :: w)) with h' | ⟨t, rfl⟩
  · exact h'
  · cases t with
    | nil => simp
    | cons d t =>
      rw [List.prefix_append_right_inj] at h
      simp [(List.cons_prefix_cons.1 h).1] at hc

/-- A reader that tries several leads finds one of them. -/
theorem Text.exists_of_findSome?_after? {α β : Type} {l : List α} {lead : α → Text} {f : α → β}
    {line t : Text} {b : β}
    (h : l.findSome? (fun a => (after? (lead a) line).map (f a, ·)) = some (b, t)) :
    ∃ a ∈ l, f a = b ∧ line = lead a ++ t := by
  obtain ⟨a, ha, hr⟩ := List.exists_of_findSome?_eq_some h
  obtain ⟨t', ht, heq⟩ := Option.map_eq_some_iff.1 hr
  simp only [Prod.mk.injEq] at heq
  obtain ⟨rfl, rfl⟩ := heq
  exact ⟨a, ha, rfl, after?_eq_some_iff.1 ht⟩

namespace Heading

theorem readMarkdown?_eq_some_iff {line t : Text} {h : Heading} :
    readMarkdown? line = some (h, t) ↔ line = h.markdownMark ++ t := by
  constructor
  · intro hr
    obtain ⟨_, -, rfl, hline⟩ := Text.exists_of_findSome?_after? hr
    exact hline
  · rintro rfl
    cases h <;> simp [readMarkdown?, all, markdownMark, Text.after?]

theorem readScrapbox?_eq_some_iff {line t : Text} {h : Heading} :
    readScrapbox? line = some (h, t) ↔ line = h.scrapboxMark ++ t := by
  constructor
  · intro hr
    obtain ⟨_, -, rfl, hline⟩ := Text.exists_of_findSome?_after? hr
    exact hline
  · rintro rfl
    cases h <;> simp [readScrapbox?, all, scrapboxMark, Text.after?]

end Heading

namespace ListItem

/-- What can stand before an item of this level in Markdown: a dash behind an indent, or a mark. -/
inductive IsMarkdownLead : Text → Nat → Prop
  | indented {indent : Text} (h : 2 ≤ indent.length) (hb : ∀ c ∈ indent, isBlank c = true) :
    IsMarkdownLead (indent ++ ['-', ' ']) (levelOfIndent indent)
  | marked {mark : Text} {level : Nat} (h : (mark, level) ∈ marks) : IsMarkdownLead mark level

theorem IsMarkdownLead.pos {lead : Text} {level : Nat} (h : IsMarkdownLead lead level) :
    0 < level := by
  cases h with
  | indented => exact Nat.succ_pos _
  | marked h =>
    simp only [marks, List.mem_cons, Prod.mk.injEq, List.not_mem_nil, or_false] at h
    omega

theorem IsMarkdownLead.isBlank_or_eq {lead : Text} {level : Nat} (h : IsMarkdownLead lead level)
    {c : Char} (hc : c ∈ lead) : isBlank c = true ∨ c = '-' := by
  cases h with
  | indented _ hb =>
    simp only [List.mem_append, List.mem_cons, List.not_mem_nil, or_false] at hc
    rcases hc with hc | rfl | rfl
    · exact .inl (hb c hc)
    · exact .inr rfl
    · exact .inl isBlank_space
  | marked h =>
    simp only [marks, List.mem_cons, Prod.mk.injEq, List.not_mem_nil, or_false] at h
    rcases h with ⟨rfl, -⟩ | ⟨rfl, -⟩ <;> simp at hc <;> rcases hc with rfl | rfl <;> decide

theorem IsMarkdownLead.ne_nil {lead : Text} {level : Nat} (h : IsMarkdownLead lead level) :
    lead ≠ [] := by
  cases h with
  | indented => simp
  | marked h =>
    rintro rfl
    simp [marks] at h

theorem IsMarkdownLead.notMem {lead : Text} {level : Nat} (h : IsMarkdownLead lead level)
    {c : Char} (hb : isBlank c = false) (hc : c ≠ '-') : c ∉ lead := by
  intro hm
  rcases h.isBlank_or_eq hm with hb' | rfl
  · rw [hb] at hb'
    cases hb'
  · exact hc rfl

theorem readIndented?_append {indent : Text} (h : 2 ≤ indent.length)
    (hb : ∀ c ∈ indent, isBlank c = true) (t : Text) :
    readIndented? (indent ++ ['-', ' '] ++ t) = some (levelOfIndent indent, t) := by
  have hdash : ¬ isBlank '-' = true := by decide
  have htake : (indent ++ ['-', ' '] ++ t).takeWhile isBlank = indent := by
    rw [List.append_assoc, List.takeWhile_append_of_pos hb, List.cons_append,
      List.takeWhile_cons_of_neg hdash, List.append_nil]
  have hdrop : (indent ++ ['-', ' '] ++ t).dropWhile isBlank = ['-', ' '] ++ t := by
    rw [List.append_assoc, List.dropWhile_append_of_pos hb, List.cons_append,
      List.dropWhile_cons_of_neg hdash]
  rw [readIndented?, htake, hdrop, if_neg (by omega), Text.after?_append, Option.map_some]

theorem readIndented?_of_dash (t : Text) : readIndented? ('-' :: t) = none := by
  have hdash : ¬ isBlank '-' = true := by decide
  rw [readIndented?, List.takeWhile_cons_of_neg hdash, if_pos (by simp)]

theorem readMarkdown?_eq_some_iff {line t : Text} {level : Nat} :
    readMarkdown? line = some (level, t) ↔
      ∃ lead, IsMarkdownLead lead level ∧ line = lead ++ t := by
  constructor
  · intro h
    simp only [readMarkdown?, Option.orElse_eq_orElse, Option.orElse_eq_or,
      Option.or_eq_some_iff] at h
    rcases h with h | ⟨-, h⟩
    · simp only [readIndented?] at h
      split_ifs at h with hlen
      obtain ⟨t', ht, heq⟩ := Option.map_eq_some_iff.1 h
      simp only [Prod.mk.injEq] at heq
      obtain ⟨rfl, rfl⟩ := heq
      refine ⟨_, .indented (by omega) fun c hc => List.mem_takeWhile_imp hc, ?_⟩
      rw [List.append_assoc, ← Text.after?_eq_some_iff.1 ht, List.takeWhile_append_dropWhile]
    · obtain ⟨⟨mark, _⟩, hmem, rfl, hline⟩ := Text.exists_of_findSome?_after? h
      exact ⟨mark, .marked hmem, hline⟩
  · rintro ⟨lead, hlead, rfl⟩
    cases hlead with
    | indented h hb =>
      rw [readMarkdown?, readIndented?_append h hb]
      rfl
    | marked h =>
      simp only [marks, List.mem_cons, Prod.mk.injEq, List.not_mem_nil, or_false] at h
      rcases h with ⟨rfl, rfl⟩ | ⟨rfl, rfl⟩
      all_goals
        rw [readMarkdown?, List.cons_append, readIndented?_of_dash]
        rfl

/-- The lead of a level is its mark, or a dash behind an indent if the level has none. -/
theorem markdownLead_cases (level : Nat) :
    (markdownLead level, level) ∈ marks
      ∨ markdownLead level = indentOfLevel level ++ ['-', ' '] ∧ level ≠ 1 ∧ level ≠ 2 := by
  by_cases h1 : level = 1
  · subst h1
    exact .inl (by decide)
  by_cases h2 : level = 2
  · subst h2
    exact .inl (by decide)
  · exact .inr ⟨by simp [markdownLead, marks, List.find?, Ne.symm h1, Ne.symm h2], h1, h2⟩

theorem isMarkdownLead_markdownLead {level : Nat} (h : 0 < level) :
    IsMarkdownLead (markdownLead level) level := by
  rcases markdownLead_cases level with hmark | ⟨hlead, h1, h2⟩
  · exact .marked hmark
  have hlen : 2 ≤ (indentOfLevel level).length := by
    rw [indentOfLevel, List.length_replicate]
    omega
  have hblank : ∀ c ∈ indentOfLevel level, isBlank c = true := by
    intro c hc
    rw [List.eq_of_mem_replicate hc]
    exact isBlank_space
  rw [hlead]
  simpa only [levelOfIndent_indentOfLevel h] using IsMarkdownLead.indented hlen hblank

theorem eq_of_mem_markdownLead {level : Nat} {c : Char} (h : c ∈ markdownLead level) :
    c = '-' ∨ c = ' ' := by
  rcases markdownLead_cases level with hmark | ⟨hlead, -, -⟩
  · simp only [marks, List.mem_cons, Prod.mk.injEq, List.not_mem_nil, or_false] at hmark
    rcases hmark with ⟨hmark, -⟩ | ⟨hmark, -⟩ <;> simpa [hmark] using h
  · rw [hlead, indentOfLevel, List.mem_append] at h
    rcases h with h | h
    · exact .inr (List.eq_of_mem_replicate h)
    · simpa using h

theorem scrapboxLevel_scrapboxLead_append (level : Nat) (t : Text) :
    scrapboxLevel (scrapboxLead level ++ t) = level + scrapboxLevel t := by
  rw [scrapboxLevel, scrapboxLead, List.takeWhile_append_of_pos (by simp), List.length_append,
    List.length_replicate, scrapboxLevel]

theorem scrapboxLevel_eq_zero_iff {t : Text} : scrapboxLevel t = 0 ↔ t.head? ≠ some ' ' := by
  cases t with
  | nil => simp [scrapboxLevel]
  | cons c t =>
    rw [scrapboxLevel, List.takeWhile_cons]
    by_cases h : c = ' ' <;> simp [h]

theorem scrapboxLevel_append {t : Text} (level : Nat) (h : t.head? ≠ some ' ') :
    scrapboxLevel (scrapboxLead level ++ t) = level := by
  rw [scrapboxLevel_scrapboxLead_append, scrapboxLevel_eq_zero_iff.2 h, Nat.add_zero]

theorem head?_dropWhile_ne_space (line : Text) :
    (line.dropWhile (· = ' ')).head? ≠ some ' ' := by
  intro hspace
  have hnot := List.head?_dropWhile_not (· = ' ') line
  rw [hspace] at hnot
  simp at hnot

theorem scrapboxLead_append_dropWhile (line : Text) :
    scrapboxLead (scrapboxLevel line) ++ line.dropWhile (· = ' ') = line := by
  have hspaces : line.takeWhile (· = ' ') = scrapboxLead (scrapboxLevel line) := by
    refine List.eq_replicate_iff.2 ⟨rfl, fun c hc => ?_⟩
    simpa using List.mem_takeWhile_imp hc
  rw [← hspaces, List.takeWhile_append_dropWhile]

theorem readScrapbox?_append {t : Text} {level : Nat} (hpos : 0 < level)
    (h : t.head? ≠ some ' ') : readScrapbox? (scrapboxLead level ++ t) = some (level, t) := by
  rw [readScrapbox?, scrapboxLevel_append level h, if_neg (by omega), scrapboxLead,
    List.drop_left' (List.length_replicate ..)]

theorem readScrapbox?_eq_none {line : Text} (h : line.head? ≠ some ' ') :
    readScrapbox? line = none := by
  rw [readScrapbox?, if_pos (scrapboxLevel_eq_zero_iff.2 h)]

end ListItem

namespace Markdown

theorem structureLine_heading (h : Heading) (t : Text) :
    structureLine (h.markdownMark ++ t) = h.scrapboxMark ++ t := by
  rw [structureLine, Heading.readMarkdown?_eq_some_iff.2 rfl]

theorem structureLine_item {lead : Text} {level : Nat} (h : ListItem.IsMarkdownLead lead level)
    (t : Text) : structureLine (lead ++ t) = ListItem.scrapboxLead level ++ t := by
  have hnone : Heading.readMarkdown? (lead ++ t) = none := by
    rw [Option.eq_none_iff_forall_ne_some]
    rintro ⟨hd, t'⟩ hr
    have heq := Heading.readMarkdown?_eq_some_iff.1 hr
    obtain ⟨c, lead', rfl⟩ := List.exists_cons_of_ne_nil h.ne_nil
    refine h.notMem (c := '#') (by decide) (by decide) ?_
    cases hd <;> simp_all [Heading.markdownMark]
  rw [structureLine, hnone, ListItem.readMarkdown?_eq_some_iff.2 ⟨lead, h, rfl⟩]

theorem structureLine_plain {line : Text}
    (hh : ∀ h : Heading, ¬ h.markdownMark <+: line)
    (hi : ∀ lead level, ListItem.IsMarkdownLead lead level → ¬ lead <+: line) :
    structureLine line = line := by
  have hnone : Heading.readMarkdown? line = none := by
    rw [Option.eq_none_iff_forall_ne_some]
    rintro ⟨h, t⟩ hr
    exact hh h ⟨t, (Heading.readMarkdown?_eq_some_iff.1 hr).symm⟩
  have hnone' : ListItem.readMarkdown? line = none := by
    rw [Option.eq_none_iff_forall_ne_some]
    rintro ⟨level, t⟩ hr
    obtain ⟨lead, hlead, heq⟩ := ListItem.readMarkdown?_eq_some_iff.1 hr
    exact hi lead level hlead ⟨t, heq.symm⟩
  rw [structureLine, hnone, hnone']

/-- A line starts with a heading mark, with the lead of an item, or with neither. -/
theorem structureLine_cases (line : Text) :
    (∃ (h : Heading) (t : Text), line = h.markdownMark ++ t)
      ∨ (∃ lead level t, ListItem.IsMarkdownLead lead level ∧ line = lead ++ t)
      ∨ (∀ h : Heading, ¬ h.markdownMark <+: line)
        ∧ ∀ lead level, ListItem.IsMarkdownLead lead level → ¬ lead <+: line := by
  by_cases hh : ∃ h : Heading, h.markdownMark <+: line
  · obtain ⟨h, t, ht⟩ := hh
    exact .inl ⟨h, t, ht.symm⟩
  by_cases hi : ∃ lead level, ListItem.IsMarkdownLead lead level ∧ lead <+: line
  · obtain ⟨lead, level, hlead, t, ht⟩ := hi
    exact .inr (.inl ⟨lead, level, t, hlead, ht.symm⟩)
  · exact .inr (.inr ⟨fun h hp => hh ⟨h, hp⟩, fun lead level hl hp => hi ⟨lead, level, hl, hp⟩⟩)

/-- What changes at the head of a line has no bracket and no parenthesis in it. -/
theorem exists_structureLine_eq (line : Text) :
    ∃ lead mark t, line = lead ++ t ∧ structureLine line = mark ++ t
      ∧ ∀ c ∈ ['[', ']', '(', ')'], c ∉ lead ∧ c ∉ mark := by
  rcases structureLine_cases line with ⟨h, t, rfl⟩ | ⟨lead, level, t, hlead, rfl⟩ | ⟨hh, hi⟩
  · exact ⟨_, _, t, rfl, structureLine_heading h t, by cases h <;> decide⟩
  · have hmarks : ∀ c ∈ ['[', ']', '(', ')'], isBlank c = false ∧ c ≠ '-' ∧ c ≠ ' ' := by decide
    refine ⟨lead, _, t, rfl, structureLine_item hlead t, fun c hc => ?_⟩
    obtain ⟨hblank, hdash, hspace⟩ := hmarks c hc
    exact ⟨hlead.notMem hblank hdash, fun hm => hspace (List.eq_of_mem_replicate hm)⟩
  · exact ⟨[], [], line, rfl, structureLine_plain hh hi, by simp⟩

theorem newline_notMem_structureLine {line : Text} (h : '\n' ∉ line) :
    '\n' ∉ structureLine line := by
  rcases structureLine_cases line with ⟨hd, t, rfl⟩ | ⟨lead, level, t, hlead, rfl⟩ | ⟨hh, hi⟩
  · rw [structureLine_heading]
    rw [List.mem_append, not_or] at h ⊢
    exact ⟨by cases hd <;> decide, h.2⟩
  · rw [structureLine_item hlead]
    rw [List.mem_append, not_or] at h ⊢
    exact ⟨fun hm => absurd (List.eq_of_mem_replicate hm) (by decide), h.2⟩
  · rwa [structureLine_plain hh hi]

theorem lines_structureLines (s : Text) :
    (structureLines s).lines = s.lines.map structureLine := by
  refine Text.lines_ofLines (fun line hline => ?_) (by simpa using s.lines_ne_nil)
  obtain ⟨line, hmem, rfl⟩ := List.mem_map.1 hline
  exact newline_notMem_structureLine (Text.notMem_of_mem_lines hmem)

/-- No mark of a heading and no lead of an item has the character in it. -/
structure IsUnmarked (c : Char) : Prop where
  isBlank : isBlank c = false
  ne_dash : c ≠ '-'
  ne_hash : c ≠ '#'

/-- What a line is shows in front of the first character that no mark and no lead has in it. -/
theorem exists_structureLine_append (u : Text) :
    ∃ v, ∀ c w, IsUnmarked c → structureLine (u ++ c :: w) = v ++ c :: w := by
  rcases structureLine_cases u with ⟨h, t, rfl⟩ | ⟨lead, level, t, hlead, rfl⟩ | ⟨hh, hi⟩
  · refine ⟨h.scrapboxMark ++ t, fun c w _ => ?_⟩
    rw [List.append_assoc, structureLine_heading, List.append_assoc]
  · refine ⟨ListItem.scrapboxLead level ++ t, fun c w _ => ?_⟩
    rw [List.append_assoc, structureLine_item hlead, List.append_assoc]
  · refine ⟨u, fun c w hc => structureLine_plain (fun h hp => hh h ?_)
      fun lead level hl hp => hi lead level hl ?_⟩
    · refine (Text.prefix_append_cons_iff ?_ u w).1 hp
      have hspace := ne_of_isBlank hc.isBlank isBlank_space
      cases h <;> simp [Heading.markdownMark, hc.ne_hash, hspace]
    · exact (Text.prefix_append_cons_iff (hl.notMem hc.isBlank hc.ne_dash) u w).1 hp

end Markdown

namespace Scrapbox

theorem structureLine_heading (h : Heading) (t : Text) :
    structureLine (h.scrapboxMark ++ t) = h.markdownMark ++ t := by
  rw [structureLine, Heading.readScrapbox?_eq_some_iff.2 rfl]

theorem structureLine_item {level : Nat} (hpos : 0 < level) {t : Text}
    (h : t.head? ≠ some ' ') :
    structureLine (ListItem.scrapboxLead level ++ t) = ListItem.markdownLead level ++ t := by
  have hnone : Heading.readScrapbox? (ListItem.scrapboxLead level ++ t) = none := by
    rw [Option.eq_none_iff_forall_ne_some]
    rintro ⟨hd, t'⟩ hr
    have heq := Heading.readScrapbox?_eq_some_iff.1 hr
    obtain ⟨n, rfl⟩ : ∃ n, level = n + 1 := ⟨level - 1, by omega⟩
    rw [ListItem.scrapboxLead, List.replicate_succ] at heq
    cases hd <;> simp [Heading.scrapboxMark] at heq
  rw [structureLine, hnone, ListItem.readScrapbox?_append hpos h]

theorem structureLine_plain {line : Text} (hh : ∀ h : Heading, ¬ h.scrapboxMark <+: line)
    (hi : line.head? ≠ some ' ') : structureLine line = line := by
  have hnone : Heading.readScrapbox? line = none := by
    rw [Option.eq_none_iff_forall_ne_some]
    rintro ⟨h, t⟩ hr
    exact hh h ⟨t, (Heading.readScrapbox?_eq_some_iff.1 hr).symm⟩
  rw [structureLine, hnone, ListItem.readScrapbox?_eq_none hi]

/-- A line starts with a heading mark, with the spaces of an item, or with neither. -/
theorem structureLine_cases (line : Text) :
    (∃ (h : Heading) (t : Text), line = h.scrapboxMark ++ t)
      ∨ (∃ level t, 0 < level ∧ t.head? ≠ some ' ' ∧ line = ListItem.scrapboxLead level ++ t)
      ∨ (∀ h : Heading, ¬ h.scrapboxMark <+: line) ∧ line.head? ≠ some ' ' := by
  by_cases hh : ∃ h : Heading, h.scrapboxMark <+: line
  · obtain ⟨h, t, ht⟩ := hh
    exact .inl ⟨h, t, ht.symm⟩
  by_cases hi : line.head? = some ' '
  · obtain ⟨t, rfl⟩ := List.head?_eq_some_iff.1 hi
    refine .inr (.inl ⟨_, _, ?_, ListItem.head?_dropWhile_ne_space _,
      (ListItem.scrapboxLead_append_dropWhile (' ' :: t)).symm⟩)
    simp [ListItem.scrapboxLevel]
  · exact .inr (.inr ⟨fun h hp => hh ⟨h, hp⟩, hi⟩)

theorem exists_structureLine_eq (line : Text) :
    ∃ lead mark t, line = lead ++ t ∧ structureLine line = mark ++ t
      ∧ ∀ c ∈ ['[', ']', '(', ')'], c ∉ lead ∧ c ∉ mark := by
  rcases structureLine_cases line with ⟨h, t, rfl⟩ | ⟨level, t, hpos, ht, rfl⟩ | ⟨hh, hi⟩
  · exact ⟨_, _, t, rfl, structureLine_heading h t, by cases h <;> decide⟩
  · have hmarks : ∀ c ∈ ['[', ']', '(', ')'], c ≠ '-' ∧ c ≠ ' ' := by decide
    refine ⟨_, _, t, rfl, structureLine_item hpos ht, fun c hc => ?_⟩
    obtain ⟨hdash, hspace⟩ := hmarks c hc
    exact ⟨fun hm => hspace (List.eq_of_mem_replicate hm),
      fun hm => (ListItem.eq_of_mem_markdownLead hm).elim hdash hspace⟩
  · exact ⟨[], [], line, rfl, structureLine_plain hh hi, by simp⟩

end Scrapbox

end Dialects
