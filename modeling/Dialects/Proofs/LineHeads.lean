import Dialects.Proofs.LineForms
import Dialects.Proofs.Occurrence

/-!
# Inline rules and the head of a line

A notation starts with a bracket or a star, and a rule that rewrites it puts one of the two in its
place. So a rule acts from the first bracket or star of a line on (`Text.ActsFrom`), and the marks
and leads, which have neither, stand in front of that. What a line is can be read through any of
the rules (`Text.ReadsThrough`), and a line may be restructured before the rules or behind them
(`InlineRule.structureLine_comm`).
-/

namespace Dialects

namespace Text

/-- The rewriting leaves what stands in front of the first of these characters, and one of them
stands there afterwards. -/
structure ActsFrom (openers : List Char) (f : Text → Text) : Prop where
  nil : f [] = []
  skip : ∀ c s, c ∉ openers → f (c :: s) = c :: f s
  act : ∀ c s, c ∈ openers → ∃ d t, d ∈ openers ∧ f (c :: s) = d :: t

/-- The reader takes the same off a text that is rewritten, and leaves its rest rewritten. -/
def ReadsThrough {α : Type} (f : Text → Text) (read? : Text → Option (α × Text)) : Prop :=
  ∀ s, read? (f s) = (read? s).map (Prod.map id f)

namespace ActsFrom

variable {openers : List Char} {f g : Text → Text} (hf : ActsFrom openers f)
include hf

theorem comp (hg : ActsFrom openers g) : ActsFrom openers (fun s => g (f s)) where
  nil := by rw [hf.nil, hg.nil]
  skip c s hc := by rw [hf.skip c s hc, hg.skip c (f s) hc]
  act c s hc := by
    obtain ⟨d, t, hd, ht⟩ := hf.act c s hc
    rw [ht]
    exact hg.act d t hd

theorem append {lead : Text} (h : ∀ c ∈ lead, c ∉ openers) (s : Text) :
    f (lead ++ s) = lead ++ f s := by
  induction lead with
  | nil => rfl
  | cons c lead ih =>
    rw [List.forall_mem_cons] at h
    rw [List.cons_append, hf.skip c _ h.1, ih h.2, List.cons_append]

theorem after? {lead : Text} (h : ∀ c ∈ lead, c ∉ openers) (s : Text) :
    Text.after? lead (f s) = (Text.after? lead s).map f := by
  induction lead generalizing s with
  | nil => rfl
  | cons c lead ih =>
    rw [List.forall_mem_cons] at h
    cases s with
    | nil =>
      rw [hf.nil]
      rfl
    | cons d s =>
      by_cases hd : d ∈ openers
      · obtain ⟨e, t, he, ht⟩ := hf.act d s hd
        have hcd : c ≠ d := fun heq => h.1 (heq ▸ hd)
        have hce : c ≠ e := fun heq => h.1 (heq ▸ he)
        rw [ht, Text.after?, if_neg hce, Text.after?, if_neg hcd, Option.map_none]
      · rw [hf.skip d s hd, Text.after?, Text.after?]
        split
        · exact ih h.2 s
        · rfl

/-- A reader that tries several leads reads through the rewriting if none of them has an opener. -/
theorem readsThrough_findSome? {α β : Type} {l : List α} {lead : α → Text} {b : α → β}
    (h : ∀ a ∈ l, ∀ c ∈ lead a, c ∉ openers) :
    ReadsThrough f fun s => l.findSome? fun a => (Text.after? (lead a) s).map (b a, ·) := by
  intro s
  induction l with
  | nil => rfl
  | cons a l ih =>
    rw [List.forall_mem_cons] at h
    have ih := ih h.2
    dsimp only at ih ⊢
    rw [List.findSome?_cons, List.findSome?_cons, hf.after? h.1]
    cases Text.after? (lead a) s with
    | none => exact ih
    | some t => rfl

variable {p : Char → Bool} (hp : ∀ c ∈ openers, p c = false)
include hp

theorem takeWhile_eq (s : Text) : (f s).takeWhile p = s.takeWhile p := by
  induction s with
  | nil => rw [hf.nil]
  | cons c s ih =>
    by_cases hc : c ∈ openers
    · obtain ⟨d, t, hd, ht⟩ := hf.act c s hc
      rw [ht, List.takeWhile_cons_of_neg (by simp [hp d hd]),
        List.takeWhile_cons_of_neg (by simp [hp c hc])]
    · rw [hf.skip c s hc, List.takeWhile_cons, List.takeWhile_cons, ih]

theorem dropWhile_eq (s : Text) : (f s).dropWhile p = f (s.dropWhile p) := by
  induction s with
  | nil => rw [hf.nil, List.dropWhile_nil, hf.nil]
  | cons c s ih =>
    by_cases hc : c ∈ openers
    · obtain ⟨d, t, hd, ht⟩ := hf.act c s hc
      rw [List.dropWhile_cons_of_neg (by simp [hp c hc]), ht,
        List.dropWhile_cons_of_neg (by simp [hp d hd])]
    · rw [hf.skip c s hc, List.dropWhile_cons, List.dropWhile_cons, ih]
      split
      · rfl
      · exact (hf.skip c s hc).symm

end ActsFrom

end Text

theorem Pattern.StartsWith.actsFrom {α : Type} {p : Pattern α} {write : α → Text} {c d : Char}
    {openers : List Char} (hp : p.StartsWith c) (hwrite : ∀ a, (write a).head? = some d)
    (hc : c ∈ openers) (hd : d ∈ openers) : Text.ActsFrom openers (p.replace write) where
  nil := p.replace_nil write
  skip e s he := by
    have hne : e ≠ c := fun heq => he (heq ▸ hc)
    exact replace_of_none (hp.read?_eq_none (by simpa using hne))
  act e s he := by
    rcases hr : p.read? (e :: s) with _ | ⟨a, rest⟩
    · exact ⟨e, _, he, replace_of_none hr⟩
    · obtain ⟨t, ht⟩ := List.head?_eq_some_iff.1 (hwrite a)
      refine ⟨d, t ++ p.replace write rest, hd, ?_⟩
      rw [replace_of_read? hr, ht, List.cons_append]

namespace InlineRule

/-- What a notation starts with, in the one dialect or the other. -/
def openers : List Char := ['[', '*']

theorem actsFrom_toScrapbox (rule : InlineRule) : Text.ActsFrom openers rule.toScrapbox := by
  cases rule with
  | link => exact Link.markdown_startsWith.actsFrom (fun _ => rfl) (by decide) (by decide)
  | bold => exact Bold.markdown_startsWith.actsFrom (fun _ => rfl) (by decide) (by decide)

theorem actsFrom_toMarkdown (rule : InlineRule) : Text.ActsFrom openers rule.toMarkdown := by
  cases rule with
  | link => exact Link.scrapbox_startsWith.actsFrom (fun _ => rfl) (by decide) (by decide)
  | bold => exact Bold.scrapbox_startsWith.actsFrom (fun _ => rfl) (by decide) (by decide)

theorem actsFrom_allToScrapbox : Text.ActsFrom openers allToScrapbox :=
  (actsFrom_toScrapbox .link).comp (actsFrom_toScrapbox .bold)

theorem actsFrom_allToMarkdown : Text.ActsFrom openers allToMarkdown :=
  (actsFrom_toMarkdown .link).comp (actsFrom_toMarkdown .bold)

end InlineRule

theorem ListItem.drop_scrapboxLevel (line : Text) :
    line.drop (scrapboxLevel line) = line.dropWhile (· = ' ') := by
  calc line.drop (scrapboxLevel line)
      = (scrapboxLead (scrapboxLevel line) ++ line.dropWhile (· = ' ')).drop
          (scrapboxLevel line) := by rw [scrapboxLead_append_dropWhile]
    _ = line.dropWhile (· = ' ') := List.drop_left' List.length_replicate

section Heads

variable {f : Text → Text} (hf : Text.ActsFrom InlineRule.openers f)
include hf

theorem Heading.readsThrough_readMarkdown? : Text.ReadsThrough f Heading.readMarkdown? :=
  hf.readsThrough_findSome? (by decide)

theorem Heading.readsThrough_readScrapbox? : Text.ReadsThrough f Heading.readScrapbox? :=
  hf.readsThrough_findSome? (by decide)

namespace ListItem

theorem readsThrough_readMarked? : Text.ReadsThrough f readMarked? :=
  hf.readsThrough_findSome? (by decide)

theorem readsThrough_readIndented? : Text.ReadsThrough f readIndented? := by
  intro line
  have hblank : ∀ c ∈ InlineRule.openers, isBlank c = false := by decide
  rw [readIndented?, readIndented?, hf.takeWhile_eq hblank, hf.dropWhile_eq hblank,
    hf.after? (by decide)]
  split
  · rfl
  · rw [Option.map_map, Option.map_map]
    rfl

theorem readsThrough_readMarkdown? : Text.ReadsThrough f readMarkdown? := by
  intro line
  rw [readMarkdown?, readMarkdown?, readsThrough_readIndented? hf, readsThrough_readMarked? hf]
  cases readIndented? line <;> rfl

theorem readsThrough_readScrapbox? : Text.ReadsThrough f readScrapbox? := by
  intro line
  have hspace : ∀ c ∈ InlineRule.openers, decide (c = ' ') = false := by decide
  have hlevel : scrapboxLevel (f line) = scrapboxLevel line := by
    rw [scrapboxLevel, hf.takeWhile_eq hspace, scrapboxLevel]
  rw [readScrapbox?, readScrapbox?, drop_scrapboxLevel, drop_scrapboxLevel, hlevel,
    hf.dropWhile_eq hspace]
  split <;> rfl

end ListItem

theorem Markdown.structureLine_of_actsFrom (line : Text) :
    structureLine (f line) = f (structureLine line) := by
  rw [structureLine, structureLine, Heading.readsThrough_readMarkdown? hf,
    ListItem.readsThrough_readMarkdown? hf]
  rcases Heading.readMarkdown? line with _ | ⟨h, t⟩
  · rcases ListItem.readMarkdown? line with _ | ⟨level, t⟩
    · rfl
    · refine (hf.append (fun c hc => ?_) t).symm
      rw [List.eq_of_mem_replicate hc]
      decide
  · refine (hf.append ?_ t).symm
    cases h <;> decide

theorem Scrapbox.structureLine_of_actsFrom (line : Text) :
    structureLine (f line) = f (structureLine line) := by
  rw [structureLine, structureLine, Heading.readsThrough_readScrapbox? hf,
    ListItem.readsThrough_readScrapbox? hf]
  rcases Heading.readScrapbox? line with _ | ⟨h, t⟩
  · rcases ListItem.readScrapbox? line with _ | ⟨level, t⟩
    · rfl
    · refine (hf.append (fun c hc => ?_) t).symm
      rcases ListItem.eq_of_mem_markdownLead hc with rfl | rfl <;> decide
  · refine (hf.append ?_ t).symm
    cases h <;> decide

end Heads

namespace InlineRule

/-- A line may be restructured before the inline rules or behind them, in either direction. No rule
changes what the line is: a heading of its level, an item behind the same indent or mark, or
neither. -/
theorem structureLine_comm (line : Text) :
    Markdown.structureLine (toScrapbox .bold (toScrapbox .link line))
        = toScrapbox .bold (toScrapbox .link (Markdown.structureLine line))
      ∧ Scrapbox.convertLine line
        = toMarkdown .bold (toMarkdown .link (Scrapbox.structureLine line))
      ∧ (∀ rule : InlineRule, Text.ReadsThrough rule.toScrapbox Heading.readMarkdown?
          ∧ Text.ReadsThrough rule.toScrapbox ListItem.readIndented?
          ∧ Text.ReadsThrough rule.toScrapbox ListItem.readMarked?
          ∧ (rule.toScrapbox line).takeWhile isBlank = line.takeWhile isBlank)
      ∧ ∀ rule : InlineRule, Text.ReadsThrough rule.toMarkdown Heading.readScrapbox?
          ∧ Text.ReadsThrough rule.toMarkdown ListItem.readScrapbox? := by
  refine ⟨Markdown.structureLine_of_actsFrom actsFrom_allToScrapbox line,
    Scrapbox.structureLine_of_actsFrom actsFrom_allToMarkdown line, fun rule => ?_, fun rule => ?_⟩
  · have hrule := actsFrom_toScrapbox rule
    exact ⟨Heading.readsThrough_readMarkdown? hrule, ListItem.readsThrough_readIndented? hrule,
      ListItem.readsThrough_readMarked? hrule, hrule.takeWhile_eq (by decide) line⟩
  · have hrule := actsFrom_toMarkdown rule
    exact ⟨Heading.readsThrough_readScrapbox? hrule, ListItem.readsThrough_readScrapbox? hrule⟩

end InlineRule

end Dialects
