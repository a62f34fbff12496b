import Mathlib.Data.List.Forall2
import Dialects.Markdown.Conversion
import Dialects.Proofs.Fences
import Dialects.Proofs.LineForms

/-!
# The conversion of prose keeps its fences

Two texts have the same fences if one can stand for the other in any text without a change in the
number of fences there (`CodeBlock.SameFences`), however many backticks stand on either side. That
is so of what a rule reads and what it writes in its place, and it carries over to texts that are
put together from such pieces, so the whole conversion of prose keeps every fence
(`Markdown.sameFences_convertProse`), and so does that of a line of Scrapbox
(`Scrapbox.sameFences_convertLine`).
-/

namespace Dialects

namespace CodeBlock

theorem countFences_cons_of_ne {c : Char} (hc : c ≠ '\x60') (s : Text) :
    countFences (c :: s) = countFences s := by
  rw [countFences]
  rintro s' rfl
  exact absurd rfl hc

/-- Fences are not joined across another character. -/
theorem countFences_append_cons {c : Char} (hc : c ≠ '\x60') (s t : Text) :
    countFences (s ++ c :: t) = countFences s + countFences t := by
  induction s using countFences.induct with
  | case1 s ih =>
    simp only [List.cons_append, countFences, ih]
    omega
  | case2 d s hd ih =>
    rw [List.cons_append, countFences, countFences, ih]
    · exact hd
    · rintro s' rfl hs
      rcases s with _ | ⟨a, _ | ⟨b, s⟩⟩
      · simp [hc] at hs
      · simp [hc] at hs
      · simp only [List.cons_append, List.cons.injEq] at hs
        exact hd s rfl (by rw [hs.1, hs.2.1])
  | case3 => simp [countFences, countFences_cons_of_ne hc]

theorem countFences_append_of_notMem {s : Text} (h : '\x60' ∉ s) (t : Text) :
    countFences (s ++ t) = countFences t := by
  induction s with
  | nil => rfl
  | cons c s ih =>
    rw [List.mem_cons, not_or] at h
    rw [List.cons_append, countFences_cons_of_ne (Ne.symm h.1), ih h.2]

theorem countFences_eq_zero_iff {s : Text} : countFences s = 0 ↔ ¬ fence <:+: s := by
  induction s using countFences.induct with
  | case1 s ih =>
    have : fence <:+: '\x60' :: '\x60' :: '\x60' :: s := ⟨[], s, rfl⟩
    simp [countFences, this]
  | case2 c s hc ih =>
    rw [countFences.eq_2 _ _ hc, ih, List.infix_cons_iff, not_or]
    refine ⟨fun h => ⟨?_, h⟩, And.right⟩
    rintro ⟨t, ht⟩
    simp only [fence, List.cons_append, List.nil_append, List.cons.injEq] at ht
    exact hc t ht.1.symm ht.2.symm
  | case3 => simp [countFences, fence]

theorem countFences_ofLines (ls : List Text) :
    countFences (Text.ofLines ls) = Markdown.fenceCount ls := by
  induction ls with
  | nil => rfl
  | cons l ls ih =>
    by_cases hls : ls = []
    · simp [hls, Markdown.fenceCount]
    · rw [Text.ofLines_cons hls, countFences_append_cons (by decide), ih, Markdown.fenceCount]

theorem fenceCount_eq_zero_iff {stretches : List Text} :
    Markdown.fenceCount stretches = 0 ↔ ∀ s ∈ stretches, ¬ fence <:+: s := by
  induction stretches with
  | nil => simp [Markdown.fenceCount]
  | cons s stretches ih =>
    rw [Markdown.fenceCount, Nat.add_eq_zero_iff, countFences_eq_zero_iff, ih,
      List.forall_mem_cons]

/-- A fence is on one line, as it has no line feed in it. -/
theorem fence_infix_ofLines {ls : List Text} :
    fence <:+: Text.ofLines ls ↔ ∃ line ∈ ls, fence <:+: line := by
  rw [← not_iff_not, ← countFences_eq_zero_iff, countFences_ofLines, fenceCount_eq_zero_iff]
  simp only [not_exists, not_and]

/-- One text can stand for the other without a change in the number of fences. -/
def SameFences (s t : Text) : Prop :=
  ∀ before after, countFences (before ++ s ++ after) = countFences (before ++ t ++ after)

namespace SameFences

variable {s s' t t' : Text}

theorem refl (s : Text) : SameFences s s := fun _ _ => rfl

theorem symm (h : SameFences s t) : SameFences t s :=
  fun before after => (h before after).symm

theorem trans {u : Text} (h : SameFences s t) (h' : SameFences t u) : SameFences s u :=
  fun before after => (h before after).trans (h' before after)

theorem append (h : SameFences s t) (h' : SameFences s' t') :
    SameFences (s ++ s') (t ++ t') := by
  intro before after
  calc countFences (before ++ (s ++ s') ++ after)
      = countFences (before ++ s ++ (s' ++ after)) := by simp only [List.append_assoc]
    _ = countFences (before ++ t ++ s' ++ after) := by rw [h, ← List.append_assoc]
    _ = countFences (before ++ t ++ t' ++ after) := h' _ _
    _ = countFences (before ++ (t ++ t') ++ after) := by simp only [List.append_assoc]

theorem countFences_eq (h : SameFences s t) : countFences s = countFences t := by
  simpa using h [] []

theorem no_fence (h : SameFences s t) (hs : ¬ fence <:+: s) : ¬ fence <:+: t := by
  rw [← countFences_eq_zero_iff] at hs ⊢
  rw [← h.countFences_eq, hs]

/-- A stretch without backticks can stand for any other. -/
theorem of_notMem (hs : '\x60' ∉ s) (ht : '\x60' ∉ t) (hs' : s ≠ []) (ht' : t ≠ []) :
    SameFences s t := by
  have hcount : ∀ u : Text, '\x60' ∉ u → u ≠ [] → ∀ before after,
      countFences (before ++ u ++ after) = countFences before + countFences after := by
    intro u hu hne before after
    obtain ⟨c, u, rfl⟩ := List.exists_cons_of_ne_nil hne
    rw [List.mem_cons, not_or] at hu
    rw [List.append_assoc, List.cons_append, countFences_append_cons (Ne.symm hu.1),
      countFences_append_of_notMem hu.2]
  intro before after
  rw [hcount s hs hs', hcount t ht ht']

/-- Rewriting occurrences keeps the fences if what is written has those of what is read. -/
theorem replace_of_read? {α : Type} {p : Pattern α} {write : α → Text}
    (h : ∀ {s rest : Text} {a : α}, p.read? s = some (a, rest) →
      ∃ read, s = read ++ rest ∧ SameFences read (write a)) (s : Text) :
    SameFences s (p.replace write s) := by
  induction s using Pattern.split_induction p with
  | nil => simpa using refl []
  | read c s a rest hr ih =>
    obtain ⟨read, hread, hsame⟩ := h hr
    rw [Pattern.replace_of_read? hr, hread]
    exact hsame.append ih
  | other c s hr ih =>
    rw [Pattern.replace_of_none hr]
    exact (refl [c]).append ih

theorem replace {α : Type} {p : Pattern α} {read write : α → Text} (hp : p.ReadsBack read)
    (h : ∀ a, SameFences (read a) (write a)) (s : Text) : SameFences s (p.replace write s) :=
  replace_of_read? (fun hr => ⟨_, hp hr, h _⟩) s

theorem ofLines {ls ls' : List Text} (h : List.Forall₂ SameFences ls ls') :
    SameFences (Text.ofLines ls) (Text.ofLines ls') := by
  induction h with
  | nil => exact refl _
  | @cons line line' ls ls' hline hls ih =>
    by_cases hnil : ls = []
    · subst hnil
      cases hls
      simpa using hline
    · have hnil' : ls' ≠ [] := by
        rintro rfl
        cases hls
        exact hnil rfl
      rw [Text.ofLines_cons hnil, Text.ofLines_cons hnil']
      exact hline.append ((refl ['\n']).append ih)

end SameFences

end CodeBlock

open CodeBlock

theorem Link.sameFences (l : Link) : SameFences l.toMarkdown l.toScrapbox := by
  intro before after
  have hmarkdown : before ++ l.toMarkdown ++ after
      = before ++ '[' :: (l.label ++ ']' :: ('(' :: (l.url ++ ')' :: after))) := by
    simp [toMarkdown]
  have hscrapbox : before ++ l.toScrapbox ++ after
      = before ++ '[' :: (l.url ++ ' ' :: (l.label ++ ']' :: after)) := by
    simp [toScrapbox]
  rw [hmarkdown, hscrapbox]
  simp only [countFences_append_cons (c := '[') (by decide),
    countFences_append_cons (c := ']') (by decide), countFences_append_cons (c := ')') (by decide),
    countFences_append_cons (c := ' ') (by decide), countFences_cons_of_ne (c := '(') (by decide)]
  omega

theorem Bold.sameFences (t : Text) : SameFences (toMarkdown t) (toScrapbox t) := by
  have hopen : SameFences stars ['['] :=
    .of_notMem (by decide) (by decide) (by decide) (by decide)
  have hclose : SameFences stars [']'] :=
    .of_notMem (by decide) (by decide) (by decide) (by decide)
  exact (hopen.append (.refl t)).append hclose

namespace Markdown

theorem sameFences_toScrapbox (rule : InlineRule) (s : Text) : SameFences s (rule.toScrapbox s) := by
  cases rule with
  | link => exact .replace Link.markdown_readsBack Link.sameFences s
  | bold => exact .replace Bold.markdown_readsBack Bold.sameFences s

theorem sameFences_structureLine (line : Text) : SameFences line (structureLine line) := by
  rcases structureLine_cases line with ⟨h, t, rfl⟩ | ⟨lead, level, t, hlead, rfl⟩ | ⟨hh, hi⟩
  · rw [structureLine_heading]
    refine SameFences.append ?_ (.refl t)
    cases h <;> exact .of_notMem (by decide) (by decide) (by decide) (by decide)
  · rw [structureLine_item hlead]
    have hpos := hlead.pos
    have hspaces : ListItem.scrapboxLead level ≠ [] := by
      simp only [ListItem.scrapboxLead, ne_eq, List.replicate_eq_nil_iff]
      omega
    refine SameFences.append (.of_notMem (hlead.notMem (by decide) (by decide)) ?_ hlead.ne_nil
      hspaces) (.refl t)
    intro hm
    exact absurd (List.eq_of_mem_replicate hm) (by decide)
  · rw [structureLine_plain hh hi]
    exact .refl line

theorem sameFences_map_structureLine (ls : List Text) :
    List.Forall₂ SameFences ls (ls.map structureLine) :=
  List.forall₂_map_right_iff.2 (List.forall₂_same.2 fun line _ => sameFences_structureLine line)

theorem sameFences_apply (afterCode : Bool) (pass : ProsePass) (s : Text) :
    SameFences s (pass.apply afterCode s) := by
  rcases pass with rule | _
  · exact sameFences_toScrapbox rule s
  cases afterCode with
  | false =>
    have h := SameFences.ofLines (sameFences_map_structureLine s.lines)
    rwa [Text.ofLines_lines] at h
  | true =>
    obtain ⟨line, later, hlines⟩ := List.exists_cons_of_ne_nil s.lines_ne_nil
    have h := SameFences.ofLines (.cons (.refl line) (sameFences_map_structureLine later))
    rw [← hlines, Text.ofLines_lines] at h
    simpa only [ProsePass.apply, if_true, structureLaterLines, hlines] using h

theorem sameFences_convertProse (afterCode : Bool) (s : Text) :
    SameFences s (convertProse afterCode s) := by
  rw [convertProse]
  generalize prosePasses = passes
  induction passes generalizing s with
  | nil => exact .refl s
  | cons pass passes ih => exact (sameFences_apply afterCode pass s).trans (ih _)

end Markdown

theorem Link.readUrl?_append {s url rest : Text} (h : readUrl? s = some (url, rest)) :
    s = url ++ rest := by
  simp only [readUrl?, Option.bind_eq_bind, Option.bind_eq_some_iff, Option.pure_def,
    Option.ite_none_left_eq_some, Option.some.injEq, Prod.mk.injEq] at h
  obtain ⟨⟨scheme, s₁⟩, h₁, -, rfl, rfl⟩ := h
  obtain ⟨_, -, rfl, hs⟩ := Text.exists_of_findSome?_after? h₁
  rw [hs, List.append_assoc, List.takeWhile_append_dropWhile]

/-- A link is read with any blank between its address and its label. -/
theorem Link.exists_blank_of_readScrapbox? {s rest : Text} {l : Link}
    (h : readScrapbox? s = some (l, rest)) :
    ∃ c, isBlank c = true ∧ s = ('[' :: l.url) ++ [c] ++ (l.label ++ [']']) ++ rest := by
  simp only [readScrapbox?, Option.bind_eq_bind, Option.bind_eq_some_iff, Option.pure_def,
    Option.some.injEq, Prod.mk.injEq] at h
  obtain ⟨s₁, h₁, ⟨url, s₂⟩, h₂, s₃, h₃, ⟨label, s₄⟩, h₄, rfl, rfl⟩ := h
  obtain ⟨h₄, -, -⟩ := Text.upTo?_eq_some_iff.1 h₄
  dsimp only at h₃ h₄
  cases s₂ with
  | nil => simp [afterBlank?] at h₃
  | cons c s₂ =>
    simp only [afterBlank?, Option.ite_none_right_eq_some, Option.some.injEq] at h₃
    obtain ⟨hc, rfl⟩ := h₃
    refine ⟨c, hc, ?_⟩
    rw [Text.after?_eq_some_iff.1 h₁, readUrl?_append h₂, h₄]
    simp

namespace Scrapbox

theorem sameFences_link (s : Text) : SameFences s (InlineRule.toMarkdown .link s) := by
  refine SameFences.replace_of_read? (fun {s rest l} hr => ?_) s
  obtain ⟨c, hc, hs⟩ := Link.exists_blank_of_readScrapbox? hr
  refine ⟨_, hs, ?_⟩
  have hbacktick : c ≠ '\x60' := by
    rintro rfl
    revert hc
    decide
  have hblank : SameFences [c] [' '] :=
    .of_notMem (by simpa using hbacktick.symm) (by decide) (by simp) (by simp)
  have hspace := ((SameFences.refl ('[' :: l.url)).append hblank).append
    (SameFences.refl (l.label ++ [']']))
  have hlink : ('[' :: l.url) ++ [' '] ++ (l.label ++ [']']) = l.toScrapbox := by
    simp [Link.toScrapbox]
  rw [hlink] at hspace
  exact hspace.trans l.sameFences.symm

theorem sameFences_allToMarkdown (s : Text) : SameFences s (InlineRule.allToMarkdown s) :=
  (sameFences_link s).trans
    (SameFences.replace Bold.scrapbox_readsBack (fun t => (Bold.sameFences t).symm) _)

theorem sameFences_structureLine (line : Text) : SameFences line (structureLine line) := by
  rcases structureLine_cases line with ⟨h, t, rfl⟩ | ⟨level, t, hpos, ht, rfl⟩ | ⟨hh, hi⟩
  · rw [structureLine_heading]
    refine SameFences.append ?_ (.refl t)
    cases h <;> exact .of_notMem (by decide) (by decide) (by decide) (by decide)
  · rw [structureLine_item hpos ht]
    refine SameFences.append (.of_notMem ?_ ?_ ?_ ?_) (.refl t)
    · intro hm
      exact absurd (List.eq_of_mem_replicate hm) (by decide)
    · intro hm
      rcases ListItem.eq_of_mem_markdownLead hm with h | h <;> exact absurd h (by decide)
    · simp only [ListItem.scrapboxLead, ne_eq, List.replicate_eq_nil_iff]
      omega
    · exact (ListItem.isMarkdownLead_markdownLead hpos).ne_nil
  · rw [structureLine_plain hh hi]
    exact .refl line

theorem sameFences_convertLine (line : Text) : SameFences line (convertLine line) :=
  (sameFences_allToMarkdown line).trans (sameFences_structureLine _)

end Scrapbox

end Dialects
