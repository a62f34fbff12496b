import Mathlib.Data.List.TakeWhile
import Dialects.Markdown.Fence
import Dialects.Proofs.Occurrence

/-!
# Fenced blocks in a text

A block can stand between fences if its language is spelled with word characters and no closing
fence is nearer than the end of its body. Reading takes exactly such a block off the head of a
text (`CodeBlock.readMarkdown?_eq_some_iff`). The fence that opens it is found behind any prose
without a fence of its own, however many backticks the prose ends in, as a language is not spelled
with backticks (`CodeBlock.split_block`).
-/

namespace Dialects

namespace CodeBlock

/-- A block that can be set between fences. -/
structure IsFenceable (b : CodeBlock) : Prop where
  isWord : ∀ c ∈ b.language, isWord c = true
  body_ne_nil : b.body ≠ []
  no_close : ¬ close <:+: b.body.tail

/-- A closing fence within a body would start one of its later lines. -/
theorem isFenceable_of_lines {b : CodeBlock} (hword : ∀ c ∈ b.language, Dialects.isWord c = true)
    (hne : b.body ≠ []) (hfence : ∀ line ∈ b.body.lines.tail, ¬ fence <+: line) :
    b.IsFenceable := by
  refine ⟨hword, hne, ?_⟩
  rintro ⟨x, y, hxy⟩
  obtain ⟨c, s, hs⟩ := List.exists_cons_of_ne_nil hne
  rw [hs, List.tail_cons] at hxy
  have hbody : b.body = (c :: x) ++ '\n' :: (fence ++ y) := by
    rw [hs, ← hxy]
    simp [close]
  obtain ⟨first, later, -, hfirst⟩ := @Text.exists_lines_append fence (by decide) y
  obtain ⟨l, ls, hl⟩ := List.exists_cons_of_ne_nil (Text.lines_ne_nil (c :: x))
  refine hfence (fence ++ first) ?_ (List.prefix_append _ _)
  rw [hbody, Text.lines_append_newline, hl, hfirst]
  simp

theorem readBody?_eq_some {s body rest : Text} (h : readBody? s = some (body, rest)) :
    s = body ++ close ++ rest ∧ body ≠ [] ∧ ¬ close <:+: body.tail := by
  refine ⟨readBody?_append h, ?_⟩
  induction s generalizing body with
  | nil => simp [readBody?] at h
  | cons c s ih =>
    simp only [readBody?] at h
    split at h
    · simp only [Option.some.injEq, Prod.mk.injEq] at h
      obtain ⟨rfl, -⟩ := h
      simp [close]
    · rename_i hnone
      obtain ⟨⟨body', rest'⟩, h', h''⟩ := Option.map_eq_some_iff.1 h
      simp only [Prod.mk.injEq] at h''
      obtain ⟨rfl, rfl⟩ := h''
      refine ⟨by simp, fun hin => ?_⟩
      obtain ⟨hne, hno⟩ := ih h'
      obtain ⟨d, body, rfl⟩ := List.exists_cons_of_ne_nil hne
      rcases List.infix_cons_iff.1 hin with ⟨t, ht⟩ | hin
      · rw [readBody?_append h', ← ht, List.append_assoc, List.append_assoc,
          Text.after?_append] at hnone
        simp at hnone
      · exact hno hin

/-- A closing fence does not reach from a body into the closing fence behind it. -/
theorem prefix_of_prefix_append_close {s rest : Text} (hs : s ≠ [])
    (h : close <+: s ++ close ++ rest) : close <+: s := by
  rcases s with _ | ⟨a, _ | ⟨b, _ | ⟨c, _ | ⟨d, s⟩⟩⟩⟩
  · exact absurd rfl hs
  · simp [close, fence] at h
  · simp [close, fence] at h
  · simp [close, fence] at h
  · simpa [close, fence] using h

theorem readBody?_of_no_close {body : Text} (rest : Text) (hne : body ≠ [])
    (hno : ¬ close <:+: body.tail) : readBody? (body ++ close ++ rest) = some (body, rest) := by
  induction body with
  | nil => exact absurd rfl hne
  | cons c body ih =>
    rw [List.tail_cons] at hno
    simp only [List.cons_append, readBody?]
    by_cases hbody : body = []
    · subst hbody
      rw [List.nil_append, Text.after?_append]
    · have hnone : Text.after? close (body ++ close ++ rest) = none := by
        rw [Option.eq_none_iff_forall_ne_some]
        intro t ht
        exact hno (prefix_of_prefix_append_close hbody
          ⟨t, (Text.after?_eq_some_iff.1 ht).symm⟩).isInfix
      have htail : ¬ close <:+: body.tail := fun hin =>
        hno (hin.trans (List.tail_suffix body).isInfix)
      rw [hnone]
      simp only [ih hbody htail, Option.map_some]

theorem toMarkdown_append (b : CodeBlock) (rest : Text) :
    b.toMarkdown ++ rest = fence ++ (b.language ++ '\n' :: (b.body ++ close ++ rest)) := by
  simp [toMarkdown]

theorem toScrapbox_eq (b : CodeBlock) (default : Text) :
    b.toScrapbox default = header ++ languageOr default b.language
      ++ '\n' :: Text.ofLines (b.body.lines.map (' ' :: ·)) :=
  Text.ofLines_cons (by simpa using b.body.lines_ne_nil)

theorem getLast?_toMarkdown (b : CodeBlock) : b.toMarkdown.getLast? = some '\x60' := by
  have hlast : b.toMarkdown
      = fence ++ b.language ++ '\n' :: b.body ++ ['\n', '\x60', '\x60'] ++ ['\x60'] := by
    simp [toMarkdown, close, fence]
  rw [hlast, List.getLast?_concat]

theorem ofLines_markdownLines {b : CodeBlock} (h : b.body ≠ []) :
    Text.ofLines b.markdownLines = b.toMarkdown := by
  rw [markdownLines, if_neg h, List.cons_append, Text.ofLines_cons (by simp),
    Text.ofLines_append b.body.lines_ne_nil (by simp), Text.ofLines_singleton, Text.ofLines_lines]
  simp [toMarkdown, close]

theorem ofLines_markdownLines_append {b : CodeBlock} (h : b.body ≠ []) (lines : List Text) :
    Text.ofLines (b.markdownLines ++ lines) = b.toMarkdown ++ Text.ofLines ([] :: lines) := by
  rw [Text.ofLines_append_eq_append (by simp [markdownLines]), ofLines_markdownLines h]

theorem newline_notMem_scrapboxLines {b : CodeBlock} (hne : b.language ≠ [])
    (hword : ∀ c ∈ b.language, Dialects.isWord c = true) (default : Text) :
    ∀ line ∈ b.scrapboxLines default, '\n' ∉ line := by
  intro line hline hm
  simp only [scrapboxLines, languageOr, if_neg hne, List.mem_cons, List.mem_map] at hline
  rcases hline with rfl | ⟨code, hcode, rfl⟩
  · rcases List.mem_append.1 hm with hm | hm
    · exact absurd hm (by decide)
    · have hnewline := hword _ hm
      rw [isWord_newline] at hnewline
      cases hnewline
  · rcases List.mem_cons.1 hm with hm | hm
    · cases hm
    · exact Text.notMem_of_mem_lines hcode hm

theorem lines_toScrapbox {b : CodeBlock} (hne : b.language ≠ [])
    (hword : ∀ c ∈ b.language, isWord c = true) (default : Text) :
    (b.toScrapbox default).lines = (header ++ b.language) :: b.body.lines.map (' ' :: ·) := by
  rw [toScrapbox, Text.lines_ofLines (newline_notMem_scrapboxLines hne hword default)
    (by simp [scrapboxLines]), scrapboxLines, languageOr, if_neg hne]

/-- Reading takes exactly the blocks that can be fenced off the head of a text. -/
theorem readMarkdown?_eq_some_iff {s rest : Text} {b : CodeBlock} :
    readMarkdown? s = some (b, rest) ↔ b.IsFenceable ∧ s = b.toMarkdown ++ rest := by
  constructor
  · intro h
    simp only [readMarkdown?, Option.bind_eq_bind, Option.bind_eq_some_iff, Option.pure_def,
      Option.some.injEq, Prod.mk.injEq] at h
    obtain ⟨s₁, h₁, s₂, h₂, ⟨body, s₃⟩, h₃, rfl, rfl⟩ := h
    obtain ⟨hs₂, hne, hno⟩ := readBody?_eq_some h₃
    refine ⟨⟨fun c hc => List.mem_takeWhile_imp hc, hne, hno⟩, ?_⟩
    rw [toMarkdown_append, Text.after?_eq_some_iff.1 h₁, ← hs₂]
    simpa [Text.after?_eq_some_iff.1 h₂] using
      (List.takeWhile_append_dropWhile (p := isWord) (l := s₁)).symm
  · rintro ⟨⟨hword, hne, hno⟩, rfl⟩
    have htake : (b.language ++ '\n' :: (b.body ++ close ++ rest)).takeWhile isWord
        = b.language := by
      rw [List.takeWhile_append_of_pos hword,
        List.takeWhile_cons_of_neg (by simp [isWord_newline]), List.append_nil]
    have hdrop : (b.language ++ '\n' :: (b.body ++ close ++ rest)).dropWhile isWord
        = ['\n'] ++ (b.body ++ close ++ rest) := by
      rw [List.dropWhile_append_of_pos hword,
        List.dropWhile_cons_of_neg (by simp [isWord_newline])]
      rfl
    simp only [readMarkdown?, toMarkdown_append, Text.after?_append, htake, hdrop,
      readBody?_of_no_close rest hne hno, Option.bind_eq_bind, Option.bind_some, Option.pure_def]

theorem markdown_readsBack : markdown.ReadsBack toMarkdown :=
  fun h => (readMarkdown?_eq_some_iff.1 h).2

theorem readMarkdown?_eq_none {s : Text} (h : ¬ fence <+: s) : readMarkdown? s = none := by
  rcases hr : readMarkdown? s with _ | ⟨b, rest⟩
  · rfl
  · obtain ⟨-, rfl⟩ := readMarkdown?_eq_some_iff.1 hr
    exact absurd ⟨_, (toMarkdown_append b rest).symm⟩ h

theorem split_of_no_fence {s : Text} (h : ¬ fence <:+: s) : markdown.split s = ⟨s, []⟩ := by
  have hsplit : markdown.split (s ++ [])
      = ⟨s ++ (markdown.split []).lead, (markdown.split []).found⟩ := by
    refine Pattern.split_append fun t _ ht => readMarkdown?_eq_none fun hp => h ?_
    rw [List.append_nil] at hp
    exact hp.isInfix.trans ht.isInfix
  simpa using hsplit

/-- No fence opens a block early: with backticks in front of it, its language would have to start
with one. -/
theorem readMarkdown?_append_fence {t s : Text} (hne : t ≠ []) (h : ¬ fence <+: t) :
    readMarkdown? (t ++ (fence ++ s)) = none := by
  rcases hr : readMarkdown? (t ++ (fence ++ s)) with _ | ⟨b, rest⟩
  · rfl
  obtain ⟨hb, heq⟩ := readMarkdown?_eq_some_iff.1 hr
  have hstart : ∀ u, '\x60' :: u ≠ b.language ++ '\n' :: (b.body ++ close ++ rest) := by
    intro u hu
    rcases hl : b.language with _ | ⟨c, l⟩
    · simp [hl] at hu
    · have hc := hb.isWord c (by simp [hl])
      simp only [hl, List.cons_append, List.cons.injEq] at hu
      rw [← hu.1, isWord_backtick] at hc
      cases hc
  rw [toMarkdown_append] at heq
  rcases t with _ | ⟨a, _ | ⟨a', _ | ⟨a'', t⟩⟩⟩
  · exact absurd rfl hne
  · simp only [fence, List.cons_append, List.nil_append, List.cons.injEq] at heq
    exact absurd heq.2.2.2 (hstart _)
  · simp only [fence, List.cons_append, List.nil_append, List.cons.injEq] at heq
    exact absurd heq.2.2.2 (hstart _)
  · simp only [fence, List.cons_append, List.nil_append, List.cons.injEq] at heq
    exact absurd ⟨t, by simp [fence, heq]⟩ h

/-- Behind prose without a fence, the first block is the one that stands there. -/
theorem split_block {prose rest : Text} {b : CodeBlock} (hp : ¬ fence <:+: prose)
    (hb : b.IsFenceable) :
    markdown.split (prose ++ (b.toMarkdown ++ rest))
      = ⟨prose, (b, (markdown.split rest).lead) :: (markdown.split rest).found⟩ := by
  have hread : markdown.read? (b.toMarkdown ++ rest) = some (b, rest) :=
    readMarkdown?_eq_some_iff.2 ⟨hb, rfl⟩
  have hprose : ∀ t, t ≠ [] → t <:+ prose →
      markdown.read? (t ++ (b.toMarkdown ++ rest)) = none := by
    intro t hne ht
    rw [toMarkdown_append]
    exact readMarkdown?_append_fence hne fun hf => hp (hf.isInfix.trans ht.isInfix)
  rw [Pattern.split_append hprose, Pattern.split_of_read? hread, List.append_nil]

end CodeBlock

end Dialects
