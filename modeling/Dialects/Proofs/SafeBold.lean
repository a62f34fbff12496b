import Dialects.Proofs.InventedLinks

/-!
# Bold text that stays bold

A bracket that has no address in it and no parenthesis behind it (`Link.ClosesPlain`) is not read as
a link of either dialect (`Link.Plain.not_opens`, `Link.Plain.found_scrapbox`). The bracket of bold
text is such a one (`Markdown.closesPlain_bold`), unless the text starts as an address does, closes
the bracket itself in front of a parenthesis, or has a parenthesis next to its stars
(`Bold.InvitesNoLink`). So if there is no such bold text in Markdown, there is no link when it comes
back (`Markdown.found_round_trip`).
-/

namespace Dialects

open Text

namespace Link

/-- Behind an opening bracket, the rest of a pair on this line that no link is read from. -/
def ClosesPlain (s : Text) : Prop :=
  ∃ t rest, s = t ++ ']' :: rest ∧ ']' ∉ t ∧ '\n' ∉ t ∧ rest.head? ≠ some '('
    ∧ ∀ scheme ∈ schemes, ¬ scheme <+: t

theorem closesPlain_isToldByLine : IsToldByLine ClosesPlain where
  append {s t} h hhead := by
    obtain ⟨inner, rest, rfl, hclose, hline, hparen, hscheme⟩ := h
    refine ⟨inner, rest ++ t, by simp, hclose, hline, ?_, hscheme⟩
    cases rest with
    | nil => exact hhead
    | cons c rest => exact hparen
  of_newline h := by
    obtain ⟨inner, rest, heq, hclose, hline, hparen, hscheme⟩ := h
    obtain ⟨w, rfl, rfl⟩ := exists_eq_append_of_newline hline heq
    refine ⟨inner, w, rfl, hclose, hline, ?_, hscheme⟩
    cases w with
    | nil => simp
    | cons c w => exact hparen

/-- No link is read from any bracket of the text. -/
def Plain : Text → Prop := EachBracket ClosesPlain

variable {s : Text}

theorem Plain.not_opens {later : Prop} (h : Plain s) : ¬ Opens later s := by
  induction s with
  | nil => exact not_false
  | cons c s ih =>
    rintro (⟨hc, hafter⟩ | hrest)
    · obtain ⟨inner, rest, rfl, hclose, -, hparen, -⟩ := h.1 hc
      obtain ⟨-, behind, rfl, -⟩ := (opensAfter_append hclose rest).1 hafter
      exact hparen rfl
    · exact ih h.2 hrest

theorem Plain.found_scrapbox (h : Plain s) : (scrapbox.split s).found = [] := by
  by_contra hne
  obtain ⟨lead, t, l, rest, rfl, hr, -⟩ := Pattern.exists_of_found_ne_nil hne
  obtain ⟨c, hc, rfl, haddress, -, hlabel⟩ := readScrapbox?_eq_some_iff.1 hr
  obtain ⟨inner, rest', heq, hclose, -, -, hscheme⟩ := (EachBracket.of_append_right h).1 rfl
  rw [← List.cons_append, ← List.append_assoc] at heq
  -- the bracket closes behind the label, so what it holds starts with the address
  obtain ⟨rfl, -⟩ := append_cons_inj (haddress.notMem_append hc hlabel) hclose heq
  obtain ⟨scheme, hmem, place, hurl, -⟩ := haddress
  exact hscheme scheme hmem ⟨place ++ c :: l.label, by rw [hurl, List.append_assoc]⟩

end Link

/-- Bold text that neither starts as an address does nor closes a bracket in front of a parenthesis,
and has no parenthesis next to it. -/
def Bold.InvitesNoLink (t behind : Text) : Prop :=
  behind.head? ≠ some '(' ∧ (∀ scheme ∈ Link.schemes, ¬ scheme <+: t) ∧ ¬ [']', '('] <:+: t

instance (t behind : Text) : Decidable (Bold.InvitesNoLink t behind) :=
  inferInstanceAs (Decidable (_ ∧ _ ∧ _))

namespace Markdown

open Link

/-- A parenthesis in front is no bold text, neither before nor after. -/
theorem head?_bold_iff (s : Text) :
    (InlineRule.toScrapbox .bold s).head? = some '('
      ↔ (Bold.markdown.split s).lead.head? = some '(' := by
  cases s with
  | nil => rw [InlineRule.toScrapbox, Pattern.replace_nil, Pattern.split_nil]
  | cons c s =>
    rw [InlineRule.toScrapbox]
    rcases hr : Bold.markdown.read? (c :: s) with _ | ⟨t, rest⟩
    · rw [Pattern.replace_of_none hr, Pattern.split_of_none hr, List.head?_cons, List.head?_cons]
    · rw [Pattern.replace_of_read? hr, Pattern.split_of_read? hr]
      simp [Bold.toScrapbox]

theorem closesPlain_bold {t rest : Text} (hline : '\n' ∉ t)
    (h : Bold.InvitesNoLink t (Bold.markdown.split rest).lead) :
    ClosesPlain (t ++ ']' :: InlineRule.toScrapbox .bold rest) := by
  obtain ⟨hparen, hscheme, hbracket⟩ := h
  by_cases hclose : ']' ∈ t
  · -- the text closes its own bracket
    obtain ⟨u, v, rfl, hu⟩ := List.eq_append_cons_of_mem hclose
    rw [List.mem_append, not_or] at hline
    refine ⟨u, v ++ ']' :: InlineRule.toScrapbox .bold rest, by simp, hu, hline.1, ?_,
      fun scheme hmem hp => hscheme scheme hmem (hp.trans (List.prefix_append u _))⟩
    cases v with
    | nil => simp
    | cons c v =>
      intro hc
      obtain rfl : c = '(' := by simpa using hc
      exact hbracket ⟨u, v, by simp⟩
  · exact ⟨t, _, rfl, hclose, hline, (head?_bold_iff rest).not.2 hparen, hscheme⟩

theorem plain_bold {s : Text} (hs : '[' ∉ s)
    (h : ∀ q ∈ (Bold.markdown.split s).found, Bold.InvitesNoLink q.1 q.2) :
    Plain (InlineRule.toScrapbox .bold s) := by
  induction s using Pattern.split_induction Bold.markdown with
  | nil =>
    rw [InlineRule.toScrapbox, Pattern.replace_nil]
    trivial
  | read c s t rest hr ih =>
    have hbracket : Bold.toScrapbox t ++ Bold.markdown.replace Bold.toScrapbox rest
        = '[' :: (t ++ [']'] ++ Bold.markdown.replace Bold.toScrapbox rest) := by
      simp [Bold.toScrapbox]
    rw [Bold.markdown_readsBack hr, List.mem_append, not_or] at hs
    rw [Pattern.split_of_read? hr, List.forall_mem_cons] at h
    have ht : '[' ∉ t ++ [']'] := by
      rw [List.mem_append, not_or]
      exact ⟨fun hm => hs.1 (by simp [Bold.toMarkdown, hm]), by decide⟩
    rw [InlineRule.toScrapbox, Pattern.replace_of_read? hr, hbracket]
    refine ⟨fun _ => ?_, (EachBracket.append_of_notMem ht _).2 (ih hs.2 h.2)⟩
    rw [List.append_assoc]
    exact closesPlain_bold (Bold.newline_notMem_of_readMarkdown? hr) h.1
  | other c s hr ih =>
    rw [List.mem_cons, not_or] at hs
    rw [Pattern.split_of_none hr] at h
    rw [InlineRule.toScrapbox, Pattern.replace_of_none hr]
    exact ⟨fun hc => absurd hc.symm hs.1, ih hs.2 h⟩

theorem plain_toScrapbox {default s : Text} (hdefault : '[' ∉ default) (hs : '[' ∉ s)
    (h : ∀ u ∈ (CodeBlock.markdown.split s).stretches, ∀ q ∈ (Bold.markdown.split u).found,
      Bold.InvitesNoLink q.1 q.2) : Plain (toScrapbox default s).text :=
  eachBracket_toScrapbox closesPlain_isToldByLine hdefault hs fun u hu hopen =>
    plain_bold hopen (h u hu)

end Markdown

namespace Scrapbox

theorem plain_nameBlock {default line : Text} (hdefault : '[' ∉ default) (hline : Link.Plain line) :
    Link.Plain (nameBlock default line) := by
  have hheader : '[' ∉ CodeBlock.header := by decide
  rw [nameBlock]
  split
  · split
    · exact EachBracket.of_notMem (by simp [hheader, hdefault])
    · exact hline
  · exact hline

theorem found_toMarkdown_of_plain {default s : Text} (hdefault : '[' ∉ default) (hs : IsPaired s)
    (hplain : Link.Plain s) : (Link.markdown.split (toMarkdown default s).text).found = [] := by
  have hlines : ∀ line ∈ s.lines, Link.Plain line :=
    (EachBracket.iff_lines Link.closesPlain_isToldByLine).1 hplain
  by_contra hfound
  rcases (found_toMarkdown_ne_nil_iff (EachBracket.of_notMem hdefault) hs).1 hfound
    with hlink | ⟨line, hmem, hlink⟩
  · refine Link.Plain.not_opens (EachBracket.ofLines Link.closesPlain_isToldByLine fun l hl => ?_)
      (Link.found_ne_nil_iff.1 hlink)
    obtain ⟨line, hline, rfl⟩ := List.mem_map.1 hl
    exact plain_nameBlock hdefault (hlines line hline)
  · exact hlink (hlines line (Part.mem_of_prose_mem_ofLines hmem)).found_scrapbox

end Scrapbox

namespace Markdown

open CodeBlock (usualLanguage)
open Scrapbox (Part nameBlock)

/-- Text without a bracket comes back from Scrapbox with a link exactly if there is one to read in
between; and there is none if no bold text of its prose invites one. -/
theorem found_round_trip {default default' s : Text} (hs : '[' ∉ s)
    (hdefault : '[' ∉ default) (hdefault' : '[' ∉ default') :
    ((Link.markdown.split
          (Scrapbox.toMarkdown default' (toScrapbox default s).text).text).found ≠ []
      ↔ (Link.markdown.split (Text.ofLines
            ((toScrapbox default s).text.lines.map (nameBlock default')))).found ≠ []
        ∨ ∃ line, .prose line ∈ Part.ofLines default' 1 (toScrapbox default s).text.lines
            ∧ (Link.scrapbox.split line).found ≠ [])
      ∧ ((∀ u ∈ (CodeBlock.markdown.split s).stretches, ∀ q ∈ (Bold.markdown.split u).found,
          Bold.InvitesNoLink q.1 q.2) →
        (Link.markdown.split
          (Scrapbox.toMarkdown default' (toScrapbox default s).text).text).found = []) := by
  have hpaired := isPaired_toScrapbox hdefault hs
  exact ⟨Scrapbox.found_toMarkdown_ne_nil_iff (EachBracket.of_notMem hdefault') hpaired, fun h =>
    Scrapbox.found_toMarkdown_of_plain hdefault' hpaired (plain_toScrapbox hdefault hs h)⟩

/-- A blank keeps the parenthesis from the bold text; an address with a label is a link. -/
theorem found_round_trip_blank :
    '[' ∉ "**a** (b)".toList ∧ '[' ∉ usualLanguage
      ∧ (∀ u ∈ (CodeBlock.markdown.split "**a** (b)".toList).stretches,
          ∀ q ∈ (Bold.markdown.split u).found, Bold.InvitesNoLink q.1 q.2)
      ∧ (Link.markdown.split (Scrapbox.toMarkdown usualLanguage
            (toScrapbox usualLanguage "**a** (b)".toList).text).text).found = []
      ∧ '[' ∉ "- **http://a b**".toList
      ∧ (Link.markdown.split (Scrapbox.toMarkdown usualLanguage
            (toScrapbox usualLanguage "- **http://a b**".toList).text).text).found ≠ [] := by
  have hs : '[' ∉ "**a** (b)".toList := by decide
  have hs' : '[' ∉ "- **http://a b**".toList := by decide
  have hlanguage : '[' ∉ usualLanguage := by decide
  have hnone : ∀ u ∈ (CodeBlock.markdown.split "**a** (b)".toList).stretches,
      ∀ q ∈ (Bold.markdown.split u).found, Bold.InvitesNoLink q.1 q.2 := by decide +kernel
  have hline : .prose " [http://a b]".toList ∈ Part.ofLines usualLanguage 1
        (toScrapbox usualLanguage "- **http://a b**".toList).text.lines
      ∧ (Link.scrapbox.split " [http://a b]".toList).found ≠ [] := by decide +kernel
  exact ⟨hs, hlanguage, hnone, (found_round_trip hs hlanguage hlanguage).2 hnone, hs',
    (found_round_trip hs' hlanguage hlanguage).1.2 (.inr ⟨_, hline⟩)⟩

/-- The brackets of bold text and a parenthesis next to it are a link. -/
theorem found_round_trip_parenthesis :
    '[' ∉ "**a**(b)".toList ∧ '[' ∉ usualLanguage
      ∧ (Link.markdown.split (Scrapbox.toMarkdown usualLanguage
            (toScrapbox usualLanguage "**a**(b)".toList).text).text).found ≠ [] := by
  decide +kernel

end Markdown

end Dialects
