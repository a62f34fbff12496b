import Dialects.Document
import Dialects.Proofs.LineByLine
import Dialects.Proofs.Opacity
import Dialects.Proofs.Tokenization

/-!
# Fences that open nothing

A fenced block is left in the prose if what stands behind its opening fence is no language, or if
it has no code. Its fences are then free to open another block. The closing one does so if a line
behind the next starts with a fence, and the opening one, with a language behind it, even if the
next line does (`CodeBlock.TakesRest`). The text behind the block is converted as if it stood alone
exactly if neither happens (`Markdown.text_toScrapbox_append_iff_not_takesRest`).
-/

namespace Dialects

namespace CodeBlock

/-- Whether a fence opens a block depends on the language behind it and on a later fence that
starts a line. -/
theorem opens_fence_iff {info s : Text} (h : '\n' ∉ info) :
    Opens (fence ++ (info ++ '\n' :: s))
      ↔ (∀ c ∈ info, isWord c = true) ∧ close <:+: s.tail := by
  constructor
  · rintro ⟨⟨language, body⟩, hword, hne, rest, hrest⟩
    have hnewline : '\n' ∉ language := by
      intro hm
      have hc := hword _ hm
      rw [isWord_newline] at hc
      cases hc
    rw [toMarkdown_append, List.append_cancel_left_eq] at hrest
    obtain ⟨rfl, rfl⟩ := Text.append_cons_inj hnewline h hrest
    obtain ⟨c, body, rfl⟩ := List.exists_cons_of_ne_nil hne
    exact ⟨hword, body, rest, rfl⟩
  · rintro ⟨hword, body, rest, hs⟩
    cases s with
    | nil => simp [close] at hs
    | cons c s =>
      rw [List.tail_cons] at hs
      refine ⟨⟨info, c :: body⟩, hword, by simp, rest, ?_⟩
      rw [toMarkdown_append, ← hs]
      rfl

theorem close_infix_append_iff {t : Text} (ht : '\n' ∉ t) (s : Text) :
    close <:+: t ++ s ↔ close <:+: s := by
  induction t with
  | nil => rfl
  | cons c t ih =>
    rw [List.mem_cons, not_or] at ht
    rw [List.cons_append, List.infix_cons_iff, ih ht.2, or_iff_right]
    rintro ⟨u, hu⟩
    exact ht.1 (List.cons.inj hu).1

theorem not_fence_prefix_append {w t : Text} (hw : '\x60' ∉ w) (hne : w ≠ []) (ht : t ≠ [])
    (hsuffix : t <:+ fence ++ w) (hwhole : t ≠ fence ++ w) (s : Text) : ¬ fence <+: t ++ s := by
  obtain ⟨c, w, rfl⟩ := List.exists_cons_of_ne_nil hne
  have hc : '\x60' ≠ c := fun h => hw (h ▸ List.mem_cons_self)
  rcases List.suffix_cons_iff.1 hsuffix with rfl | hsuffix
  · exact absurd rfl hwhole
  rcases List.suffix_cons_iff.1 hsuffix with rfl | hsuffix
  · simp [fence, hc]
  rcases List.suffix_cons_iff.1 hsuffix with rfl | hsuffix
  · simp [fence, hc]
  · obtain ⟨d, t, rfl⟩ := List.exists_cons_of_ne_nil ht
    have hd : '\x60' ≠ d := by
      rintro rfl
      exact hw (hsuffix.subset List.mem_cons_self)
    simp [fence, hd]

/-- A fence that opens nothing belongs to the prose, with what stands up to the next backtick. -/
theorem split_fence_append {w s : Text} (hw : '\x60' ∉ w) (hne : w ≠ [])
    (h : ¬ Opens (fence ++ (w ++ s))) :
    markdown.split (fence ++ (w ++ s))
      = ⟨fence ++ (w ++ (markdown.split s).lead), (markdown.split s).found⟩ := by
  have hpass : ∀ t, t ≠ [] → t <:+ fence ++ w → markdown.read? (t ++ s) = none := by
    intro t ht hsuffix
    by_cases hwhole : t = fence ++ w
    · rw [hwhole, List.append_assoc]
      exact readMarkdown?_eq_none_iff.2 h
    · exact readMarkdown?_eq_none (not_fence_prefix_append hw hne ht hsuffix hwhole s)
  rw [← List.append_assoc, Pattern.split_append hpass, List.append_assoc]

/-- The text of a fenced block with this behind its opening fence and these lines of code. -/
def fenced (info : Text) (body : List Text) : Text :=
  Text.ofLines (Document.Block.code info body).markdownLines

def inside (info : Text) (body : List Text) : Text := info ++ '\n' :: Text.ofLines (body ++ [[]])

/-- One of the fences of a block that is not read opens another with the text behind it. -/
def TakesRest (info rest : Text) : Prop :=
  close <:+: rest.tail ∨ (∀ c ∈ info, isWord c = true) ∧ close <:+: '\n' :: rest

instance (info rest : Text) : Decidable (TakesRest info rest) := inferInstanceAs (Decidable (_ ∨ _))

section Fenced

variable {info : Text} {body : List Text}

theorem fenced_eq : fenced info body = fence ++ (inside info body ++ fence) := by
  rw [fenced, Document.Block.markdownLines, List.cons_append, Text.ofLines_cons (by simp),
    Text.ofLines_append_of_ne_nil body (by simp), Text.ofLines_singleton]
  simp [inside]

theorem fenced_append (s : Text) :
    fenced info body ++ s = fence ++ (inside info body ++ (fence ++ s)) := by
  simp only [fenced_eq, List.append_assoc]

theorem inside_ne_nil : inside info body ≠ [] := by simp [inside]

theorem notMem_inside {c : Char} (hc : c ≠ '\n') (hinfo : c ∉ info)
    (hbody : ∀ line ∈ body, c ∉ line) : c ∉ inside info body := by
  intro hm
  rcases List.mem_append.1 hm with hm | hm
  · exact hinfo hm
  rcases List.mem_cons.1 hm with hm | hm
  · exact hc hm
  obtain ⟨line, hline, hm⟩ := (Text.mem_ofLines hc).1 hm
  rcases List.mem_append.1 hline with hline | hline
  · exact hbody line hline hm
  · rw [List.mem_singleton.1 hline] at hm
    cases hm

theorem ofLines_concat_nil (h : Text.ofLines body = []) :
    Text.ofLines (body ++ [[]]) = [] ∨ Text.ofLines (body ++ [[]]) = ['\n'] := by
  by_cases hbody : body = []
  · subst hbody
    exact .inl rfl
  · rw [Text.ofLines_append hbody (by simp), h]
    exact .inr rfl

variable (hinfo : '\n' ∉ info)
  (hunread : (∃ c ∈ info, isWord c = false) ∨ Text.ofLines body = [])

include hinfo hunread

/-- The opening fence of a block that is not read opens a block only with a language behind it, and
with the next fence behind the block that starts a line. -/
theorem opens_inside_iff {s : Text} :
    Opens (fence ++ (inside info body ++ (fence ++ s)))
      ↔ (∀ c ∈ info, isWord c = true) ∧ close <:+: s := by
  have hsplit : fence ++ (inside info body ++ (fence ++ s))
      = fence ++ (info ++ '\n' :: (Text.ofLines (body ++ [[]]) ++ (fence ++ s))) := by
    simp [inside]
  rw [hsplit, opens_fence_iff hinfo]
  refine and_congr_right fun hword => ?_
  have hbody : Text.ofLines body = [] := by
    rcases hunread with ⟨c, hc, hnot⟩ | hbody
    · rw [hword c hc] at hnot
      cases hnot
    · exact hbody
  -- what is left of the fence that closes the block holds no line feed, so no fence starts in it
  have hbackticks : '\n' ∉ ['\x60', '\x60'] := by decide
  have hfence : '\n' ∉ fence := by decide
  rcases ofLines_concat_nil hbody with hcode | hcode
  · rw [hcode]
    exact close_infix_append_iff hbackticks s
  · rw [hcode]
    exact close_infix_append_iff hfence s

theorem split_fenced (hbody : '\x60' ∉ inside info body) :
    markdown.split (fenced info body) = ⟨fenced info body, []⟩ := by
  have hopens : ¬ Opens (fence ++ (inside info body ++ (fence ++ []))) := by
    rw [opens_inside_iff hinfo hunread]
    simp [close]
  have hfence : markdown.split fence = ⟨fence, []⟩ := by
    rw [fence, Pattern.split_of_none rfl, Pattern.split_of_none rfl, Pattern.split_of_none rfl,
      Pattern.split_nil]
  rw [List.append_nil] at hopens
  rw [fenced_eq, split_fence_append hbody inside_ne_nil hopens, hfence]

theorem split_fenced_append (hbody : '\x60' ∉ inside info body) {rest : Text}
    (h : ¬ TakesRest info rest) :
    markdown.split (fenced info body ++ '\n' :: rest)
      = ⟨fenced info body ++ '\n' :: (markdown.split rest).lead, (markdown.split rest).found⟩ := by
  rw [TakesRest, not_or] at h
  have hopen : ¬ Opens (fence ++ (inside info body ++ (fence ++ (['\n'] ++ rest)))) := by
    rw [opens_inside_iff hinfo hunread]
    exact h.2
  have hclose : ¬ Opens (fence ++ (['\n'] ++ rest)) := by
    have hiff := @opens_fence_iff [] rest (by simp)
    simpa using fun hopens => h.1 (hiff.1 hopens).2
  have hsplit : fenced info body ++ '\n' :: rest
      = fence ++ (inside info body ++ (fence ++ (['\n'] ++ rest))) := fenced_append _
  rw [hsplit, split_fence_append hbody inside_ne_nil hopen,
    split_fence_append (by decide) (by simp) hclose, fenced_append]
  rfl

/-- A fence of the block that takes the rest opens the first block, and no prose of the block stands
in front of it but what is before that fence. -/
theorem exists_split_of_takesRest (hbody : '\x60' ∉ inside info body) {rest : Text}
    (h : TakesRest info rest) :
    ∃ lead p found, markdown.split (fenced info body ++ '\n' :: rest) = ⟨lead, p :: found⟩
      ∧ (lead = [] ∨ lead = fence ++ inside info body) := by
  have hread : ∀ {s : Text}, Opens s → ∃ p found, markdown.split s = ⟨[], p :: found⟩ := by
    intro s hs
    rcases hr : markdown.read? s with _ | ⟨b, behind⟩
    · exact absurd hs (readMarkdown?_eq_none_iff.1 hr)
    · exact ⟨_, _, Pattern.split_of_read? hr⟩
  rw [fenced_append]
  by_cases hopen : Opens (fence ++ (inside info body ++ (fence ++ '\n' :: rest)))
  · obtain ⟨p, found, heq⟩ := hread hopen
    exact ⟨[], p, found, heq, .inl rfl⟩
  · rw [split_fence_append hbody inside_ne_nil hopen]
    rw [opens_inside_iff hinfo hunread] at hopen
    have hclose : Opens (fence ++ ([] ++ '\n' :: rest)) :=
      (opens_fence_iff (by simp)).2 ⟨by simp, h.resolve_right hopen⟩
    obtain ⟨p, found, heq⟩ := hread hclose
    rw [List.nil_append] at heq
    rw [heq]
    exact ⟨_, p, found, rfl, .inr (by simp)⟩

end Fenced

theorem header_prefix_toScrapbox (b : CodeBlock) (default : Text) :
    header <+: b.toScrapbox default := by
  rw [toScrapbox_eq, List.append_assoc]
  exact List.prefix_append _ _

end CodeBlock

namespace Markdown

open CodeBlock

theorem structureLine_fence (t : Text) : structureLine (fence ++ t) = fence ++ t := by
  refine structureLine_plain (fun h hp => ?_) fun lead level hlead hp => ?_
  · cases h <;> simp [Heading.markdownMark, fence] at hp
  · obtain ⟨c, lead, rfl⟩ := List.exists_cons_of_ne_nil hlead.ne_nil
    obtain ⟨rfl, -⟩ := List.cons_prefix_cons.1 hp
    exact hlead.notMem (by decide) (by decide) List.mem_cons_self

theorem fence_prefix_convertProse (t : Text) : fence <+: convertProse false (fence ++ t) := by
  obtain ⟨first, later, -, hlines⟩ :=
    @Text.exists_lines_append fence (by decide) (InlineRule.allToScrapbox t)
  rw [convertProse_false, InlineRule.allToScrapbox_append (by decide) (by decide), structureLines,
    hlines, List.map_cons, structureLine_fence]
  by_cases hlater : later.map structureLine = []
  · rw [hlater, Text.ofLines_singleton]
    exact List.prefix_append _ _
  · rw [Text.ofLines_cons hlater, List.append_assoc]
    exact List.prefix_append _ _

theorem exists_inside_eq (info : Text) (body : List Text) :
    ∃ u, inside info body = u ++ ['\n'] := by
  by_cases hbody : body = []
  · exact ⟨info, by rw [inside, hbody]; rfl⟩
  · refine ⟨info ++ '\n' :: Text.ofLines body, ?_⟩
    rw [inside, Text.ofLines_append hbody (by simp)]
    simp

theorem exists_convertProse_fenced {info : Text} {body : List Text} {lead : Text}
    (hlead : lead = [] ∨ lead = fence ++ inside info body) (hlink : '[' ∉ inside info body) :
    ∃ t, convertProse false (fenced info body) = convertProse false lead ++ (fence ++ t) := by
  rcases hlead with rfl | rfl
  · obtain ⟨t, ht⟩ := fence_prefix_convertProse (inside info body ++ fence)
    exact ⟨t, by rw [fenced_eq, ← ht, convertProse_nil, List.nil_append]⟩
  · obtain ⟨u, hu⟩ := exists_inside_eq info body
    have hlink' : '[' ∉ fence ++ u := by
      rw [hu, List.mem_append, not_or] at hlink
      simp [fence, hlink.1]
    have hclosed : fenced info body = fence ++ u ++ '\n' :: fence := by simp [fenced_eq, hu]
    have hopen : fence ++ inside info body = fence ++ u ++ '\n' :: [] := by simp [hu]
    obtain ⟨t, ht⟩ := fence_prefix_convertProse []
    rw [List.append_nil] at ht
    refine ⟨t, ?_⟩
    rw [hclosed, hopen, convertProse_append_newline hlink', convertProse_append_newline hlink',
      convertProse_nil, ht, List.append_assoc]
    rfl

/-- Behind a fenced block that is not read, for want of a language or of code, the text is converted
as if it stood alone exactly if neither fence of the block opens another with a later one. -/
theorem text_toScrapbox_append_iff_not_takesRest {info : Text} {body : List Text}
    (hinfo : ∀ c ∈ info, c ∉ ['\x60', '[', '\n'])
    (hbody : ∀ line ∈ body, ∀ c ∈ line, c ∉ ['\x60', '['])
    (hunread : (∃ c ∈ info, isWord c = false) ∨ Text.ofLines body = []) (default rest : Text) :
    (toScrapbox default (fenced info body ++ '\n' :: rest)).text
        = (toScrapbox default (fenced info body)).text ++ '\n' :: (toScrapbox default rest).text
      ↔ ¬ TakesRest info rest := by
  have hnotMem : ∀ c ∈ ['\x60', '['], c ∉ inside info body := by
    intro c hc
    refine notMem_inside ?_ (fun hm => hinfo c hm ?_) fun line hline hm => hbody line hline c hm hc
    · rintro rfl
      simp at hc
    · simp only [List.mem_cons, List.not_mem_nil, or_false] at hc ⊢
      exact hc.elim .inl fun h => .inr (.inl h)
  have hnewline : '\n' ∉ info := fun hm => hinfo _ hm (by simp)
  have hbacktick := hnotMem '\x60' (by simp)
  have hlink := hnotMem '[' (by simp)
  have halone : (toScrapbox default (fenced info body)).text
      = convertProse false (fenced info body) := by
    simp only [toScrapbox, split_fenced hnewline hunread hbacktick, List.flatMap_nil,
      List.append_nil]
  rw [halone]
  constructor
  · intro heq htakes
    obtain ⟨lead, ⟨b, next⟩, found, hsplit, hlead⟩ :=
      exists_split_of_takesRest hnewline hunread hbacktick htakes
    -- the two sides agree up to that fence: there one goes on with it and the other with a header
    obtain ⟨t, ht⟩ := exists_convertProse_fenced hlead hlink
    obtain ⟨u, hu⟩ := header_prefix_toScrapbox b default
    simp only [toScrapbox, hsplit, ht, List.flatMap_cons, ← hu, List.append_assoc,
      List.append_cancel_left_eq] at heq
    exact absurd (List.cons.inj heq).1 (by decide)
  · intro htakes
    simp only [toScrapbox, split_fenced_append hnewline hunread hbacktick htakes]
    have hlink' : '[' ∉ fenced info body := by
      simp [fenced_eq, fence, hlink]
    rw [convertProse_append_newline hlink', List.append_assoc, List.cons_append]

/-- With `c++` for a language or without code, a block spoils a later one. With no later fence at
the start of a line the text behind it is left to itself. -/
theorem text_toScrapbox_append_iff_not_takesRest_samples :
    (∀ c ∈ "c++".toList, c ∉ ['\x60', '[', '\n'])
      ∧ (∃ c ∈ "c++".toList, isWord c = false) ∧ Text.ofLines [] = []
      ∧ (toScrapbox usualLanguage
          (fenced "c++".toList [['x']] ++ '\n' :: "y\n```js\nz\n```".toList)).text
        ≠ (toScrapbox usualLanguage (fenced "c++".toList [['x']])).text
          ++ '\n' :: (toScrapbox usualLanguage "y\n```js\nz\n```".toList).text
      ∧ (toScrapbox usualLanguage (fenced [] [] ++ '\n' :: "y\n```js\nz\n```".toList)).text
        ≠ (toScrapbox usualLanguage (fenced [] [])).text
          ++ '\n' :: (toScrapbox usualLanguage "y\n```js\nz\n```".toList).text
      ∧ (toScrapbox usualLanguage
          (fenced "c++".toList [['x']] ++ '\n' :: "- [a](b)\n**c** ```".toList)).text
        = (toScrapbox usualLanguage (fenced "c++".toList [['x']])).text
          ++ '\n' :: (toScrapbox usualLanguage "- [a](b)\n**c** ```".toList).text := by
  have hinfo : ∀ c ∈ "c++".toList, c ∉ ['\x60', '[', '\n'] := by decide +kernel
  have hbody : ∀ line ∈ [['x']], ∀ c ∈ line, c ∉ ['\x60', '['] := by decide
  have hword : ∃ c ∈ "c++".toList, isWord c = false := ⟨'+', by decide, by decide +kernel⟩
  have hempty : Text.ofLines [] = [] := rfl
  have hcplus := text_toScrapbox_append_iff_not_takesRest hinfo hbody (.inl hword) usualLanguage
  have hbare := @text_toScrapbox_append_iff_not_takesRest [] [] (by simp) (by simp) (.inr hempty)
    usualLanguage
  refine ⟨hinfo, hword, hempty, fun h => (hcplus _).1 h (by decide +kernel),
    fun h => (hbare _).1 h (by decide +kernel), (hcplus _).2 (by decide +kernel)⟩

end Markdown

end Dialects
