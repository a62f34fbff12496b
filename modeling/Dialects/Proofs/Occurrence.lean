import Mathlib.Tactic.SplitIfs
import Dialects.Inline.Rule

/-!
# Where occurrences start

A stretch of text in which no occurrence of a pattern starts is passed over, and what follows it is
cut as if it stood alone (`Pattern.split_append`). Every inline notation starts with a character of
its own, so a stretch without that character is such a stretch: prose with neither a bracket nor a
star reads the same in both dialects.
-/

namespace Dialects

namespace Pattern

variable {α : Type} {p : Pattern α} {write : α → Text} {lead s : Text} {c : Char}

/-- A stretch where no occurrence starts is passed over. -/
theorem split_append (h : ∀ t, t ≠ [] → t <:+ lead → p.read? (t ++ s) = none) :
    p.split (lead ++ s) = ⟨lead ++ (p.split s).lead, (p.split s).found⟩ := by
  induction lead with
  | nil => rfl
  | cons c lead ih =>
    have hc : p.read? (c :: (lead ++ s)) = none := h (c :: lead) (by simp) (List.suffix_refl _)
    rw [List.cons_append, split_of_none hc,
      ih fun t ht hs => h t ht (hs.trans (List.suffix_cons c lead))]
    rfl

theorem replace_append (h : ∀ t, t ≠ [] → t <:+ lead → p.read? (t ++ s) = none) :
    p.replace write (lead ++ s) = lead ++ p.replace write s := by
  simp only [replace, Split.join, split_append h, List.append_assoc]

/-- Every occurrence starts with this character. -/
def StartsWith (p : Pattern α) (c : Char) : Prop :=
  ∀ {s rest : Text} {a : α}, p.read? s = some (a, rest) → s.head? = some c

theorem StartsWith.read?_eq_none (hp : p.StartsWith c) (h : s.head? ≠ some c) :
    p.read? s = none := by
  rcases hr : p.read? s with _ | ⟨a, rest⟩
  · rfl
  · exact absurd (hp hr) h

theorem StartsWith.replace_append (hp : p.StartsWith c) (h : c ∉ lead) :
    p.replace write (lead ++ s) = lead ++ p.replace write s := by
  refine Pattern.replace_append fun t ht hs => hp.read?_eq_none fun hc => h (hs.subset ?_)
  obtain ⟨d, t, rfl⟩ := List.exists_cons_of_ne_nil ht
  simp only [List.cons_append, List.head?_cons, Option.some.injEq] at hc
  simp [hc]

theorem StartsWith.replace_of_notMem (hp : p.StartsWith c) (h : c ∉ s) :
    p.replace write s = s := by
  have hreplace : p.replace write (s ++ []) = s ++ p.replace write [] := hp.replace_append h
  simpa using hreplace

/-- An occurrence is read from what is written of it. -/
def ReadsBack (p : Pattern α) (write : α → Text) : Prop :=
  ∀ {s rest : Text} {a : α}, p.read? s = some (a, rest) → s = write a ++ rest

theorem ReadsBack.startsWith (hp : p.ReadsBack write) (h : ∀ a, (write a).head? = some c) :
    p.StartsWith c := by
  intro s rest a hr
  rw [hp hr, List.head?_append, h]
  rfl

end Pattern

theorem Link.markdown_readsBack : Link.markdown.ReadsBack Link.toMarkdown := by
  intro s rest l h
  simp only [Link.markdown, Link.readMarkdown?, Option.bind_eq_bind, Option.bind_eq_some_iff,
    Option.pure_def, Option.some.injEq, Prod.mk.injEq] at h
  obtain ⟨s₁, h₁, ⟨label, s₂⟩, h₂, s₃, h₃, ⟨url, s₄⟩, h₄, rfl, rfl⟩ := h
  obtain ⟨h₂, -, -⟩ := Text.upTo?_eq_some_iff.1 h₂
  obtain ⟨h₄, -, -⟩ := Text.upTo?_eq_some_iff.1 h₄
  dsimp only at h₂ h₃ h₄
  rw [Text.after?_eq_some_iff.1 h₁, h₂, Text.after?_eq_some_iff.1 h₃, h₄]
  simp [Link.toMarkdown]

theorem Bold.append_of_close? {last : Char} {s t rest : Text}
    (h : Bold.close? last s = some (t, rest)) : s = t ++ Bold.stars ++ rest := by
  induction s generalizing last t with
  | nil => simp [Bold.close?] at h
  | cons c s ih =>
    simp only [Bold.close?] at h
    split at h
    · rename_i hstars _
      simp only [Option.some.injEq, Prod.mk.injEq] at h
      obtain ⟨rfl, rfl⟩ := h
      rw [Text.after?_eq_some_iff.1 hstars, List.nil_append]
    · split_ifs at h
      obtain ⟨⟨t', rest'⟩, h', h''⟩ := Option.map_eq_some_iff.1 h
      simp only [Prod.mk.injEq] at h''
      obtain ⟨rfl, rfl⟩ := h''
      rw [ih h']
      rfl

theorem Bold.markdown_readsBack : Bold.markdown.ReadsBack Bold.toMarkdown := by
  intro s rest t h
  simp only [Bold.markdown, Bold.readMarkdown?, Option.bind_eq_bind, Option.bind_eq_some_iff,
    Option.ite_none_left_eq_some] at h
  obtain ⟨s₁, h₁, -, h₂⟩ := h
  rw [Text.after?_eq_some_iff.1 h₁, Bold.append_of_close? h₂]
  simp [Bold.toMarkdown]

theorem Bold.scrapbox_readsBack : Bold.scrapbox.ReadsBack Bold.toScrapbox := by
  intro s rest t h
  simp only [Bold.scrapbox, Bold.readScrapbox?, Option.bind_eq_bind, Option.bind_eq_some_iff,
    Option.pure_def, Option.ite_none_left_eq_some, Option.some.injEq, Prod.mk.injEq] at h
  obtain ⟨s₁, h₁, ⟨t, s₂⟩, h₂, -, rfl, rfl⟩ := h
  obtain ⟨h₂, -, -⟩ := Text.upTo?_eq_some_iff.1 h₂
  rw [Text.after?_eq_some_iff.1 h₁, h₂]
  simp [Bold.toScrapbox]

theorem Link.markdown_startsWith : Link.markdown.StartsWith '[' :=
  Link.markdown_readsBack.startsWith fun _ => rfl

theorem Bold.markdown_startsWith : Bold.markdown.StartsWith '*' :=
  Bold.markdown_readsBack.startsWith fun _ => rfl

theorem Bold.scrapbox_startsWith : Bold.scrapbox.StartsWith '[' :=
  Bold.scrapbox_readsBack.startsWith fun _ => rfl

theorem Link.scrapbox_startsWith : Link.scrapbox.StartsWith '[' := by
  intro s rest l h
  simp only [Link.scrapbox, Link.readScrapbox?, Option.bind_eq_bind, Option.bind_eq_some_iff] at h
  obtain ⟨_, h, -⟩ := h
  rw [Text.after?_eq_some_iff.1 h]
  rfl

namespace InlineRule

/-- No notation of Markdown starts in a stretch without brackets and stars. -/
theorem allToScrapbox_append {lead : Text} (hlink : '[' ∉ lead) (hbold : '*' ∉ lead) (s : Text) :
    allToScrapbox (lead ++ s) = lead ++ allToScrapbox s := by
  simp only [allToScrapbox_eq, toScrapbox]
  rw [Link.markdown_startsWith.replace_append hlink, Bold.markdown_startsWith.replace_append hbold]

theorem allToScrapbox_of_notMem {s : Text} (hlink : '[' ∉ s) (hbold : '*' ∉ s) :
    allToScrapbox s = s := by
  simp only [allToScrapbox_eq, toScrapbox]
  rw [Link.markdown_startsWith.replace_of_notMem hlink,
    Bold.markdown_startsWith.replace_of_notMem hbold]

/-- No notation of Scrapbox starts in a text without brackets. -/
theorem allToMarkdown_of_notMem {s : Text} (h : '[' ∉ s) : allToMarkdown s = s := by
  simp only [allToMarkdown_eq, toMarkdown]
  rw [Link.scrapbox_startsWith.replace_of_notMem h, Bold.scrapbox_startsWith.replace_of_notMem h]

end InlineRule

end Dialects
