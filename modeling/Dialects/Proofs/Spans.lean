import Dialects.Inline.Span
import Dialects.Proofs.KeptLinks

/-!
# Flat lines there and back

A line of flat spans is rewritten span by span: no notation of another kind starts in a span, and
each is read where it was written (`Span.replace_flatMap`). A rule rewrites one kind of span, so
between the two rules of a conversion a line has its links in one dialect and its bold text in the
other (`Span.write`). What is behind a span matters for bold text in Scrapbox alone.
-/

namespace Dialects

namespace Span

/-- The span with bold text and links written so. -/
def write (bold : Text → Text) (link : Link → Text) : Span → Text
  | .plain t => t
  | .bold t => bold t
  | .link l => link l

theorem markdownLine_eq (spans : List Span) :
    markdownLine spans = spans.flatMap (write Bold.toMarkdown Link.toMarkdown) := by
  refine List.flatMap_congr fun span _ => ?_
  cases span <;> rfl

theorem scrapboxLine_eq (spans : List Span) :
    scrapboxLine spans = spans.flatMap (write Bold.toScrapbox Link.toScrapbox) := by
  refine List.flatMap_congr fun span _ => ?_
  cases span <;> rfl

theorem replace_flatMap {α : Type} {p : Pattern α} {out : α → Text} {f g : Span → Text}
    {spans : List Span}
    (h : ∀ span ∈ spans, ∀ rest, p.replace out (f span ++ rest) = g span ++ p.replace out rest) :
    p.replace out (spans.flatMap f) = spans.flatMap g := by
  induction spans with
  | nil => exact p.replace_nil out
  | cons span spans ih =>
    rw [List.forall_mem_cons] at h
    rw [List.flatMap_cons, List.flatMap_cons, h.1, ih h.2]

theorem IsFlatText.notMem {t : Text} (h : IsFlatText t) {c : Char}
    (hc : c ∈ ['[', ']', '*', '\n']) : c ∉ t := fun hm => h c hm hc

theorem IsFlatUrl.isAddress {url : Text} (h : IsFlatUrl url) : Link.IsAddress url := by
  obtain ⟨scheme, hscheme, place, rfl, hne, hplace⟩ := h
  refine ⟨scheme, hscheme, place, rfl, hne, fun c hc => ⟨(hplace c hc).1, ?_⟩⟩
  rintro rfl
  simpa using (hplace _ hc).2

theorem IsFlatUrl.notMem {url : Text} (h : IsFlatUrl url) {c : Char}
    (hc : c ∈ ['[', ']', ')', '*']) : c ∉ url := by
  obtain ⟨scheme, hscheme, place, rfl, -, hplace⟩ := h
  have hletters : c ∉ ['h', 't', 'p', 's', ':', '/'] := by
    simp only [List.mem_cons, List.not_mem_nil, or_false] at hc
    rcases hc with rfl | rfl | rfl | rfl <;> simp
  rw [List.mem_append, not_or]
  exact ⟨Link.notMem_of_mem_schemes hscheme hletters, fun hm => (hplace c hm).2 hc⟩

theorem IsFlatUrl.ne_nil {url : Text} (h : IsFlatUrl url) : url ≠ [] := by
  obtain ⟨scheme, -, place, rfl, hne, -⟩ := h
  simp [hne]

theorem isFlatUrl_iff {url : Text} :
    IsFlatUrl url ↔ ∃ scheme ∈ Link.schemes, scheme <+: url ∧ url.drop scheme.length ≠ []
      ∧ ∀ c ∈ url.drop scheme.length, isBlank c = false ∧ c ∉ ['[', ']', ')', '*'] := by
  constructor
  · rintro ⟨scheme, hscheme, place, rfl, h⟩
    refine ⟨scheme, hscheme, List.prefix_append _ _, ?_⟩
    rwa [List.drop_left]
  · rintro ⟨scheme, hscheme, ⟨place, rfl⟩, h⟩
    rw [List.drop_left] at h
    exact ⟨scheme, hscheme, place, rfl, h⟩

instance : DecidablePred IsFlatText := fun t => Text.decidableForallMem t _

instance : DecidablePred IsFlatUrl := fun _ => decidable_of_iff _ isFlatUrl_iff.symm

instance : DecidablePred IsFlat
  | .plain t => inferInstanceAs (Decidable (IsFlatText t))
  | .bold _ => inferInstanceAs (Decidable (_ ∧ _))
  | .link _ => inferInstanceAs (Decidable (_ ∧ _))

instance decidableNoParenthesisAfterBold : DecidablePred NoParenthesisAfterBold
  | [] => .isTrue trivial
  | .bold _ :: spans =>
    have : Decidable (NoParenthesisAfterBold spans) := decidableNoParenthesisAfterBold spans
    inferInstanceAs (Decidable (_ ∧ _))
  | .plain _ :: spans => decidableNoParenthesisAfterBold spans
  | .link _ :: spans => decidableNoParenthesisAfterBold spans

/-- An address would show in front of the bracket that closes the bold text. -/
theorem readScrapbox?_bold {t : Text} (ht : (Span.bold t).IsFlat) (rest : Text) :
    Link.readScrapbox? (Bold.toScrapbox t ++ rest) = none := by
  obtain ⟨-, -, -, -, hscheme⟩ := ht
  rcases hr : Link.readScrapbox? (Bold.toScrapbox t ++ rest) with _ | ⟨l, behind⟩
  · rfl
  obtain ⟨c, -, heq, ⟨scheme, hmem, place, hurl, -, -⟩, -, -⟩ := Link.readScrapbox?_eq_some_iff.1 hr
  have hclose : ']' ∉ scheme := Link.notMem_of_mem_schemes hmem (by simp)
  simp only [Bold.toScrapbox, List.cons_append, List.append_assoc, List.cons.injEq, true_and, hurl,
    List.nil_append] at heq
  exact absurd ((Text.prefix_append_cons_iff hclose t rest).1 ⟨_, heq.symm⟩) (hscheme _ hmem)

theorem head?_flatMap_congr {f g : Span → Text} (hfg : ∀ span, (f span).head? = (g span).head?)
    (spans : List Span) : (spans.flatMap f).head? = (spans.flatMap g).head? := by
  induction spans with
  | nil => rfl
  | cons span spans ih =>
    rw [List.flatMap_cons, List.flatMap_cons, List.head?_append, List.head?_append, hfg, ih]

section

variable {spans : List Span} (h : ∀ span ∈ spans, span.IsFlat)
include h

theorem link_toScrapbox :
    InlineRule.toScrapbox .link (spans.flatMap (write Bold.toMarkdown Link.toMarkdown))
      = spans.flatMap (write Bold.toMarkdown Link.toScrapbox) := by
  refine replace_flatMap fun span hspan rest => ?_
  have hflat := h span hspan
  cases span with
  | plain t => exact Link.markdown_startsWith.replace_append (hflat.notMem (by simp))
  | bold t =>
    have hopen : '[' ∉ Bold.toMarkdown t := by
      simp [Bold.toMarkdown, Bold.stars, hflat.2.1.notMem (c := '[') (by simp)]
    exact Link.markdown_startsWith.replace_append hopen
  | link l =>
    obtain ⟨hne, hlabel, hurl⟩ := hflat
    exact Pattern.replace_of_read? (Link.readMarkdown?_eq_some_iff.2
      ⟨rfl, ⟨hne, hlabel.notMem (by simp)⟩, hurl.ne_nil, hurl.notMem (by simp)⟩)

theorem bold_toScrapbox :
    InlineRule.toScrapbox .bold (spans.flatMap (write Bold.toMarkdown Link.toScrapbox))
      = spans.flatMap (write Bold.toScrapbox Link.toScrapbox) := by
  refine replace_flatMap fun span hspan rest => ?_
  have hflat := h span hspan
  cases span with
  | plain t => exact Bold.markdown_startsWith.replace_append (hflat.notMem (by simp))
  | bold t =>
    obtain ⟨hne, ht, hhead, hlast, -⟩ := hflat
    exact Pattern.replace_of_read? (Bold.readMarkdown?_append hne (ht.notMem (by simp))
      (ht.notMem (by simp)) hhead hlast rest)
  | link l =>
    obtain ⟨-, hlabel, hurl⟩ := hflat
    have hstar : '*' ∉ l.toScrapbox := by
      simp [Link.toScrapbox, hlabel.notMem (c := '*') (by simp),
        hurl.notMem (c := '*') (by simp)]
    exact Bold.markdown_startsWith.replace_append hstar

theorem link_toMarkdown :
    InlineRule.toMarkdown .link (spans.flatMap (write Bold.toScrapbox Link.toScrapbox))
      = spans.flatMap (write Bold.toScrapbox Link.toMarkdown) := by
  refine replace_flatMap fun span hspan rest => ?_
  have hflat := h span hspan
  cases span with
  | plain t => exact Link.scrapbox_startsWith.replace_append (hflat.notMem (by simp))
  | bold t =>
    have hopen : '[' ∉ t ++ [']'] := by
      simp [hflat.2.1.notMem (c := '[') (by simp)]
    have hbehind : Link.scrapbox.replace Link.toMarkdown (t ++ [']'] ++ rest)
        = t ++ [']'] ++ Link.scrapbox.replace Link.toMarkdown rest :=
      Link.scrapbox_startsWith.replace_append hopen
    have hnone : Link.scrapbox.read? ('[' :: (t ++ [']'] ++ rest)) = none :=
      readScrapbox?_bold hflat rest
    exact (Pattern.replace_of_none hnone).trans (congrArg ('[' :: ·) hbehind)
  | link l =>
    obtain ⟨hne, hlabel, hurl⟩ := hflat
    refine Pattern.replace_of_read? (Link.readScrapbox?_eq_some_iff.2
      ⟨' ', isBlank_space, ?_, hurl.isAddress, hne, hlabel.notMem (by simp)⟩)
    simp [write, Link.toScrapbox]

theorem bold_toMarkdown_iff :
    InlineRule.toMarkdown .bold (spans.flatMap (write Bold.toScrapbox Link.toMarkdown))
        = spans.flatMap (write Bold.toMarkdown Link.toMarkdown)
      ↔ NoParenthesisAfterBold spans := by
  induction spans with
  | nil => simp [NoParenthesisAfterBold, InlineRule.toMarkdown]
  | cons span spans ih =>
    rw [List.forall_mem_cons] at h
    obtain ⟨hflat, h⟩ := h
    rw [List.flatMap_cons, List.flatMap_cons]
    cases span with
    | plain t =>
      rw [write, write, InlineRule.bold_append_of_open_notMem (hflat.notMem (by simp)),
        List.append_cancel_left_eq]
      exact ih h
    | link l =>
      obtain ⟨-, hlabel, hurl⟩ := hflat
      have hopen : '[' ∉ l.url := hurl.notMem (by simp)
      rw [write, write, InlineRule.bold_link (hlabel.notMem (by simp)) (hurl.notMem (by simp))
        fun hm => absurd hm hopen, List.append_cancel_left_eq]
      exact ih h
    | bold t =>
      obtain ⟨hne, ht, -⟩ := hflat
      have hhead : (spans.flatMap (write Bold.toScrapbox Link.toMarkdown)).head?
          = (scrapboxLine spans).head? := by
        rw [scrapboxLine_eq]
        exact head?_flatMap_congr (fun span => by cases span <;> rfl) spans
      have hread := Bold.readScrapbox?_bracket (ht.notMem (c := ']') (by simp))
        (spans.flatMap (write Bold.toScrapbox Link.toMarkdown))
      have hbracket : write Bold.toScrapbox Link.toMarkdown (bold t)
            ++ spans.flatMap (write Bold.toScrapbox Link.toMarkdown)
          = '[' :: (t ++ ']' :: spans.flatMap (write Bold.toScrapbox Link.toMarkdown)) := by
        simp [write, Bold.toScrapbox]
      rw [NoParenthesisAfterBold, ← hhead, hbracket, InlineRule.toMarkdown]
      by_cases hparen : (spans.flatMap (write Bold.toScrapbox Link.toMarkdown)).head? = some '('
      · -- the bracket is left as it is, where stars should stand
        rw [if_pos (.inr hparen)] at hread
        rw [Pattern.replace_of_none hread]
        simp [hparen, write, Bold.toMarkdown, Bold.stars]
      · rw [if_neg (by simp [hne, hparen])] at hread
        rw [Pattern.replace_of_read? hread, write, List.append_cancel_left_eq, ← ih h]
        exact (and_iff_right hparen).symm

end

/-- Flat spans convert from Markdown to Scrapbox and back, each for itself. On the way back one
thing alone stands in the way: a parenthesis right behind bold text. -/
theorem convert_line_of_isFlat {spans : List Span} (h : ∀ span ∈ spans, span.IsFlat) :
    InlineRule.allToScrapbox (markdownLine spans) = scrapboxLine spans
      ∧ (InlineRule.allToMarkdown (scrapboxLine spans) = markdownLine spans
          ↔ NoParenthesisAfterBold spans) := by
  rw [InlineRule.allToScrapbox_eq, InlineRule.allToMarkdown_eq, markdownLine_eq, scrapboxLine_eq,
    link_toScrapbox h, link_toMarkdown h]
  exact ⟨bold_toScrapbox h, bold_toMarkdown_iff h⟩

/-- Stars next to stars, bold text on both sides of a link, blanks at the ends of its label, and a
parenthesis in front of bold text, behind a blank and right behind. -/
theorem convert_line_of_isFlat_stars :
    (∀ span ∈ [.bold ['a'], .bold ['b', ' ', 'c'], .link ⟨[' ', 'd', ' '], "https://e(f".toList⟩,
        .plain ['('], .bold ['g'], .plain " (h)".toList], IsFlat span)
      ∧ InlineRule.allToScrapbox "**a****b c**[ d ](https://e(f)(**g** (h)".toList
          = "[a][b c][https://e(f  d ]([g] (h)".toList
      ∧ InlineRule.allToMarkdown "[a][b c][https://e(f  d ]([g] (h)".toList
          = "**a****b c**[ d ](https://e(f)(**g** (h)".toList
      ∧ (∀ span ∈ [.bold ['a'], .plain "(b)".toList], IsFlat span)
      ∧ InlineRule.allToMarkdown "[a](b)".toList ≠ "**a**(b)".toList := by
  have hflat : ∀ span ∈ [.bold ['a'], .bold ['b', ' ', 'c'],
      .link ⟨[' ', 'd', ' '], "https://e(f".toList⟩, .plain ['('], .bold ['g'],
      .plain " (h)".toList], IsFlat span := by decide +kernel
  have hflat' : ∀ span ∈ [.bold ['a'], .plain "(b)".toList], IsFlat span := by decide +kernel
  have hline := convert_line_of_isFlat hflat
  have hline' := convert_line_of_isFlat hflat'
  exact ⟨hflat, hline.1, hline.2.2 (by decide +kernel), hflat',
    fun h => absurd (hline'.2.1 h) (by decide +kernel)⟩

end Span

end Dialects
