import Dialects.Proofs.LineForms
import Dialects.Proofs.Occurrence

/-!
# Levels over a round trip

Markdown's mark and the spaces an item's text starts with add up in Scrapbox, where both are
leading spaces (`ListItem.scrapboxLevel_scrapboxLead_append`). Markdown reads a line of Scrapbox
back unless Scrapbox has no mark on it (`Markdown.structureLine_of_scrapbox`), so once a line was
taken over, a round trip leaves it.
-/

namespace Dialects

namespace ListItem

/-- An item has its Markdown level in Scrapbox, and one more for each space its text starts with.
So it keeps its level exactly if its text does not start with a space. -/
theorem scrapboxLevel_structureLine {lead : Text} {level : Nat} (h : IsMarkdownLead lead level)
    (t : Text) :
    scrapboxLevel (Markdown.structureLine (lead ++ t)) = level + scrapboxLevel t
      ∧ (scrapboxLevel (Markdown.structureLine (lead ++ t)) = level ↔ t.head? ≠ some ' ') := by
  have hlevel : scrapboxLevel (Markdown.structureLine (lead ++ t)) = level + scrapboxLevel t := by
    rw [Markdown.structureLine_item h, scrapboxLevel_scrapboxLead_append]
  refine ⟨hlevel, ?_⟩
  rw [hlevel, ← scrapboxLevel_eq_zero_iff]
  omega

/-- Five blanks of four kinds stand for level three. -/
theorem scrapboxLevel_structureLine_blanks :
    IsMarkdownLead ['\t', ' ', '\u3000', '\xa0', ' ', '-', ' '] 3
      ∧ scrapboxLevel (Markdown.structureLine
          (['\t', ' ', '\u3000', '\xa0', ' ', '-', ' '] ++ ['-', ' ', 'x'])) = 3 := by
  have hlead : IsMarkdownLead (['\t', ' ', '\u3000', '\xa0', ' '] ++ ['-', ' ']) 3 :=
    .indented (by decide) (by decide)
  exact ⟨hlead, (scrapboxLevel_structureLine hlead _).2.2 (by decide)⟩

/-- A text that starts with a space takes its item one level down. -/
theorem scrapboxLevel_structureLine_ne :
    ¬ ∀ (lead : Text) (level : Nat) (t : Text), IsMarkdownLead lead level → '\n' ∉ t →
      scrapboxLevel (Markdown.structureLine (lead ++ t)) = level := by
  intro h
  have hlevel := h ['-', ' '] 1 [' ', 'x'] (.marked (by decide)) (by decide)
  have hlevel' : scrapboxLevel (Markdown.structureLine (['-', ' '] ++ [' ', 'x'])) = 2 := by decide
  omega

end ListItem

namespace Markdown

/-- The line taken to Scrapbox and back. -/
def throughScrapbox (line : Text) : Text := Scrapbox.convertLine (structureLine line)

theorem structureLine_of_scrapbox (line : Text) :
    structureLine (Scrapbox.structureLine line) = line
      ∨ Scrapbox.structureLine line = line ∧ line.head? ≠ some ' ' := by
  rcases Scrapbox.structureLine_cases line with ⟨h, t, rfl⟩ | ⟨level, t, hpos, ht, rfl⟩ | ⟨hh, hi⟩
  · rw [Scrapbox.structureLine_heading, structureLine_heading]
    exact .inl rfl
  · rw [Scrapbox.structureLine_item hpos ht,
      structureLine_item (ListItem.isMarkdownLead_markdownLead hpos)]
    exact .inl rfl
  · exact .inr ⟨Scrapbox.structureLine_plain hh hi, hi⟩

/-- What a line is in Scrapbox survives the way back. -/
theorem structureLine_scrapbox_structureLine (line : Text) :
    structureLine (Scrapbox.structureLine (structureLine line)) = structureLine line := by
  rcases structureLine_cases line with ⟨h, t, rfl⟩ | ⟨lead, level, t, hlead, rfl⟩ | ⟨hh, hi⟩
  · rw [structureLine_heading, Scrapbox.structureLine_heading, structureLine_heading]
  · rw [structureLine_item hlead]
    rcases structureLine_of_scrapbox (ListItem.scrapboxLead level ++ t) with hback | ⟨-, hspace⟩
    · exact hback
    · rw [← ListItem.scrapboxLevel_eq_zero_iff, ListItem.scrapboxLevel_scrapboxLead_append] at hspace
      have hpos := hlead.pos
      omega
  · rw [structureLine_plain hh hi]
    rcases structureLine_of_scrapbox line with hback | ⟨hplain, -⟩
    · exact hback
    · rw [hplain, structureLine_plain hh hi]

theorem throughScrapbox_eq {line : Text} (h : '[' ∉ line) :
    throughScrapbox line = Scrapbox.structureLine (structureLine line) := by
  obtain ⟨lead, mark, t, hline, hstruct, hmark⟩ := exists_structureLine_eq line
  have hnot : '[' ∉ structureLine line := by
    rw [hline, List.mem_append, not_or] at h
    rw [hstruct, List.mem_append, not_or]
    exact ⟨(hmark '[' (by decide)).2, h.2⟩
  rw [throughScrapbox, Scrapbox.convertLine, InlineRule.allToMarkdown_of_notMem hnot]

theorem readMarkdown?_scrapbox_structureLine {line : Text} (h : 0 < ListItem.scrapboxLevel line) :
    ListItem.readMarkdown? (Scrapbox.structureLine line)
      = some (ListItem.scrapboxLevel line, line.dropWhile (· = ' ')) := by
  have hstruct := Scrapbox.structureLine_item h (ListItem.head?_dropWhile_ne_space line)
  rw [ListItem.scrapboxLead_append_dropWhile] at hstruct
  exact ListItem.readMarkdown?_eq_some_iff.2
    ⟨_, ListItem.isMarkdownLead_markdownLead h, hstruct⟩

/-- A line without brackets is in normal form after one round trip, and its form in Scrapbox is the
same from the first time on. A heading comes back as it was, and an item as the item that it is in
Scrapbox. -/
theorem throughScrapbox_throughScrapbox {line : Text} (h : '[' ∉ line) :
    throughScrapbox (throughScrapbox line) = throughScrapbox line
      ∧ structureLine (throughScrapbox line) = structureLine line
      ∧ (∀ hd t, Heading.readMarkdown? line = some (hd, t) → throughScrapbox line = line)
      ∧ ∀ level t, ListItem.readMarkdown? line = some (level, t) →
          ListItem.readMarkdown? (throughScrapbox line)
            = some (level + ListItem.scrapboxLevel t, t.dropWhile (· = ' ')) := by
  have hback : structureLine (throughScrapbox line) = structureLine line := by
    rw [throughScrapbox_eq h, structureLine_scrapbox_structureLine]
  refine ⟨?_, hback, fun hd t hr => ?_, fun level t hr => ?_⟩
  · rw [throughScrapbox, hback, throughScrapbox]
  · rw [throughScrapbox_eq h, Heading.readMarkdown?_eq_some_iff.1 hr, structureLine_heading,
      Scrapbox.structureLine_heading]
  · obtain ⟨lead, hlead, rfl⟩ := ListItem.readMarkdown?_eq_some_iff.1 hr
    have hpos := hlead.pos
    have hlevel := ListItem.scrapboxLevel_scrapboxLead_append level t
    have hdrop : (ListItem.scrapboxLead level ++ t).dropWhile (· = ' ') = t.dropWhile (· = ' ') :=
      List.dropWhile_append_of_pos (by simp [ListItem.scrapboxLead])
    rw [throughScrapbox_eq h, structureLine_item hlead,
      readMarkdown?_scrapbox_structureLine (by omega), hlevel, hdrop]

/-- An odd indent of several blanks and a text behind one space more come back as four spaces. -/
theorem throughScrapbox_throughScrapbox_odd :
    throughScrapbox ['\t', '\u3000', ' ', '-', ' ', ' ', 'x'] = [' ', ' ', ' ', ' ', '-', ' ', 'x']
      ∧ throughScrapbox [' ', ' ', ' ', ' ', '-', ' ', 'x'] = [' ', ' ', ' ', ' ', '-', ' ', 'x']
      ∧ throughScrapbox ['#', '#', '#', ' ', '-', ' '] = ['#', '#', '#', ' ', '-', ' '] := by
  have hbracket : '[' ∉ ['\t', '\u3000', ' ', '-', ' ', ' ', 'x'] := by decide
  have hfirst : throughScrapbox ['\t', '\u3000', ' ', '-', ' ', ' ', 'x']
      = [' ', ' ', ' ', ' ', '-', ' ', 'x'] := by
    rw [throughScrapbox_eq hbracket]
    decide
  obtain ⟨hagain, -⟩ := throughScrapbox_throughScrapbox hbracket
  rw [hfirst] at hagain
  have hbracket' : '[' ∉ ['#', '#', '#', ' ', '-', ' '] := by decide
  obtain ⟨-, -, hheading, -⟩ := throughScrapbox_throughScrapbox hbracket'
  exact ⟨hfirst, hagain, hheading .level3 ['-', ' '] (by decide)⟩

end Markdown

end Dialects
