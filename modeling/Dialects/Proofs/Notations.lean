import Dialects.Proofs.FenceCount
import Dialects.Proofs.LineByLine

/-!
# What is read as a notation

A reader takes off the head of a text exactly what has the form of its notation
(`Link.readMarkdown?_eq_some_iff`, `Bold.readScrapbox?_eq_some_iff`,
`Link.readScrapbox?_eq_some_iff`). Of these only the Scrapbox reader of bold text looks at what
stands behind, and there at one character.
-/

namespace Dialects

namespace Pattern

variable {α : Type} {p : Pattern α} {s : Text}

theorem replace_of_found_eq_nil {write : α → Text} (h : (p.split s).found = []) :
    p.replace write s = s := by
  induction s using Pattern.split_induction p with
  | nil => rw [replace_nil]
  | read c s a rest hr ih =>
    rw [split_of_read? hr] at h
    cases h
  | other c s hr ih =>
    rw [split_of_none hr] at h
    rw [replace_of_none hr, ih h]

theorem forall_mem_found {P : α → Prop}
    (h : ∀ {s rest : Text} {a : α}, p.read? s = some (a, rest) → P a) (s : Text) :
    ∀ q ∈ (p.split s).found, P q.1 := by
  induction s using Pattern.split_induction p with
  | nil => simp
  | read c s a rest hr ih =>
    rw [split_of_read? hr, List.forall_mem_cons]
    exact ⟨h hr, ih⟩
  | other c s hr ih =>
    rw [split_of_none hr]
    exact ih

theorem exists_of_found_ne_nil (h : (p.split s).found ≠ []) :
    ∃ lead t a rest, s = lead ++ t ∧ p.read? t = some (a, rest)
      ∧ ∀ write, p.replace write s = lead ++ (write a ++ p.replace write rest) := by
  induction s using Pattern.split_induction p with
  | nil => simp at h
  | read c s a rest hr ih =>
    exact ⟨[], c :: s, a, rest, rfl, hr, fun write => replace_of_read? hr⟩
  | other c s hr ih =>
    rw [split_of_none hr] at h
    obtain ⟨lead, t, a, rest, rfl, hread, hreplace⟩ := ih h
    exact ⟨c :: lead, t, a, rest, rfl, hread, fun write => by
      rw [replace_of_none hr, hreplace, List.cons_append]⟩

/-- Nothing is found exactly where nothing can be read. -/
theorem found_eq_nil_iff : (p.split s).found = [] ↔ ∀ t, t <:+ s → p.read? t = none := by
  induction s using Pattern.split_induction p with
  | nil =>
    refine ⟨fun _ t ht => ?_, fun _ => by rw [split_nil]⟩
    rw [List.suffix_nil.1 ht, read?_nil]
  | read c s a rest hr ih =>
    rw [split_of_read? hr]
    constructor
    · intro h
      cases h
    · intro h
      rw [h _ (List.suffix_refl _)] at hr
      cases hr
  | other c s hr ih =>
    rw [split_of_none hr, ih]
    refine ⟨fun h t ht => ?_, fun h t ht => h t (ht.trans (List.suffix_cons c s))⟩
    rcases List.suffix_cons_iff.1 ht with rfl | ht
    · exact hr
    · exact h t ht

end Pattern

namespace Link

theorem toMarkdown_append (l : Link) (s : Text) :
    l.toMarkdown ++ s = '[' :: (l.label ++ ']' :: '(' :: (l.url ++ ')' :: s)) := by
  simp [toMarkdown]

theorem readMarkdown?_eq_some_iff {s rest : Text} {l : Link} :
    readMarkdown? s = some (l, rest) ↔
      s = l.toMarkdown ++ rest
        ∧ (l.label ≠ [] ∧ ']' ∉ l.label) ∧ l.url ≠ [] ∧ ')' ∉ l.url := by
  simp only [readMarkdown?, Option.bind_eq_bind, Option.bind_eq_some_iff, Option.pure_def,
    Option.some.injEq, Prod.exists, Prod.mk.injEq, Text.after?_eq_some_iff,
    Text.upTo?_eq_some_iff]
  constructor
  · rintro ⟨_, rfl, label, _, ⟨rfl, hlabel⟩, _, rfl, url, _, ⟨rfl, hurl⟩, rfl, rfl⟩
    exact ⟨by simp [toMarkdown], hlabel, hurl⟩
  · rintro ⟨rfl, hlabel, hurl⟩
    exact ⟨_, by simp [toMarkdown], l.label, _, ⟨rfl, hlabel⟩, _, rfl, l.url, _, ⟨rfl, hurl⟩,
      rfl, rfl⟩

/-- A scheme, and something behind it that has neither a blank nor a bracket to end it. -/
def IsAddress (url : Text) : Prop :=
  ∃ scheme ∈ schemes, ∃ place, url = scheme ++ place ∧ place ≠ []
    ∧ ∀ c ∈ place, isBlank c = false ∧ c ≠ ']'

theorem notMem_of_mem_schemes {scheme : Text} (h : scheme ∈ schemes) {c : Char}
    (hc : c ∉ ['h', 't', 'p', 's', ':', '/']) : c ∉ scheme := by
  have hletters : ∀ scheme ∈ schemes, ∀ d ∈ scheme, d ∈ ['h', 't', 'p', 's', ':', '/'] := by decide
  exact fun hm => hc (hletters scheme h c hm)

theorem IsAddress.notMem {url : Text} (h : IsAddress url) : ']' ∉ url := by
  obtain ⟨scheme, hscheme, place, rfl, -, hplace⟩ := h
  rw [List.mem_append, not_or]
  exact ⟨notMem_of_mem_schemes hscheme (by simp), fun hm => (hplace _ hm).2 rfl⟩

theorem IsAddress.notMem_append {url label : Text} {c : Char} (h : IsAddress url)
    (hc : isBlank c = true) (hlabel : ']' ∉ label) : ']' ∉ url ++ c :: label := by
  rw [List.mem_append, List.mem_cons, not_or, not_or]
  refine ⟨h.notMem, ?_, hlabel⟩
  rintro rfl
  exact absurd hc (by decide)

theorem IsAddress.head?_append_ne {url : Text} (h : IsAddress url) (s : Text) :
    (url ++ s).head? ≠ some ')' := by
  obtain ⟨scheme, hscheme, place, rfl, -, -⟩ := h
  simp only [schemes, List.mem_cons, List.not_mem_nil, or_false] at hscheme
  rcases hscheme with rfl | rfl <;> simp

theorem findSome?_schemes_append {scheme : Text} (h : scheme ∈ schemes) (s : Text) :
    schemes.findSome? (fun scheme' => (Text.after? scheme' (scheme ++ s)).map (scheme', ·))
      = some (scheme, s) := by
  simp only [schemes, List.mem_cons, List.not_mem_nil, or_false] at h
  rcases h with rfl | rfl <;> simp [schemes, Text.after?]

theorem readUrl?_append_blank {url : Text} (h : IsAddress url) {c : Char} (hc : isBlank c = true)
    (s : Text) : readUrl? (url ++ c :: s) = some (url, c :: s) := by
  obtain ⟨scheme, hscheme, place, rfl, hne, hplace⟩ := h
  have htake : (place ++ c :: s).takeWhile (fun d => !isBlank d && decide (d ≠ ']')) = place := by
    rw [List.takeWhile_append_of_pos fun d hd => by simp [hplace d hd],
      List.takeWhile_cons_of_neg (by simp [hc]), List.append_nil]
  have hdrop : (place ++ c :: s).dropWhile (fun d => !isBlank d && decide (d ≠ ']')) = c :: s := by
    rw [List.dropWhile_append_of_pos fun d hd => by simp [hplace d hd],
      List.dropWhile_cons_of_neg (by simp [hc])]
  simp only [readUrl?, List.append_assoc, findSome?_schemes_append hscheme, Option.bind_eq_bind,
    Option.bind_some, htake, hdrop, if_neg hne, Option.pure_def]

theorem isAddress_of_readUrl? {s url rest : Text} (h : readUrl? s = some (url, rest)) :
    IsAddress url := by
  simp only [readUrl?, Option.bind_eq_bind, Option.bind_eq_some_iff, Option.pure_def,
    Option.ite_none_left_eq_some, Option.some.injEq, Prod.mk.injEq] at h
  obtain ⟨⟨scheme, s₁⟩, h₁, hne, rfl, -⟩ := h
  obtain ⟨scheme', hscheme, rfl, -⟩ := Text.exists_of_findSome?_after? h₁
  refine ⟨_, hscheme, _, rfl, hne, fun c hc => ?_⟩
  have hc := List.mem_takeWhile_imp hc
  simp only [Bool.and_eq_true, Bool.not_eq_true', decide_eq_true_eq] at hc
  exact hc

theorem readScrapbox?_eq_some_iff {s rest : Text} {l : Link} :
    readScrapbox? s = some (l, rest) ↔
      ∃ c, isBlank c = true ∧ s = '[' :: (l.url ++ c :: (l.label ++ ']' :: rest))
        ∧ IsAddress l.url ∧ l.label ≠ [] ∧ ']' ∉ l.label := by
  simp only [readScrapbox?, Option.bind_eq_bind, Option.bind_eq_some_iff, Option.pure_def,
    Option.some.injEq, Prod.exists, Prod.mk.injEq, Text.after?_eq_some_iff,
    Text.upTo?_eq_some_iff]
  constructor
  · rintro ⟨s₁, rfl, url, s₂, hurl, s₃, hblank, label, _, ⟨rfl, hlabel⟩, rfl, rfl⟩
    cases s₂ with
    | nil => simp [afterBlank?] at hblank
    | cons c s₂ =>
      simp only [afterBlank?, Option.ite_none_right_eq_some, Option.some.injEq] at hblank
      obtain ⟨hc, rfl⟩ := hblank
      exact ⟨c, hc, by simp [readUrl?_append hurl], isAddress_of_readUrl? hurl, hlabel⟩
  · rintro ⟨c, hc, rfl, hurl, hlabel⟩
    exact ⟨_, rfl, l.url, _, readUrl?_append_blank hurl hc _, _, by simp [afterBlank?, hc],
      l.label, _, ⟨rfl, hlabel⟩, rfl, rfl⟩

end Link

namespace Bold

theorem readScrapbox?_eq_some_iff {s t rest : Text} :
    readScrapbox? s = some (t, rest) ↔
      s = '[' :: (t ++ ']' :: rest) ∧ t ≠ [] ∧ ']' ∉ t ∧ rest.head? ≠ some '(' := by
  simp only [readScrapbox?, Option.bind_eq_bind, Option.bind_eq_some_iff, Option.pure_def,
    Option.ite_none_left_eq_some, Option.some.injEq, Prod.exists, Prod.mk.injEq,
    Text.after?_eq_some_iff, Text.upTo?_eq_some_iff]
  constructor
  · rintro ⟨_, rfl, _, _, ⟨rfl, hne, hmem⟩, hhead, rfl, rfl⟩
    exact ⟨rfl, hne, hmem, hhead⟩
  · rintro ⟨rfl, hne, hmem, hhead⟩
    exact ⟨_, rfl, t, rest, ⟨rfl, hne, hmem⟩, hhead, rfl, rfl⟩

theorem readScrapbox?_bracket {t : Text} (h : ']' ∉ t) (rest : Text) :
    readScrapbox? ('[' :: (t ++ ']' :: rest))
      = if t = [] ∨ rest.head? = some '(' then none else some (t, rest) := by
  by_cases hne : t = []
  · simp [hne, readScrapbox?, Text.after?, Text.upTo?]
  · have hupTo : Text.upTo? ']' (t ++ ']' :: rest) = some (t, rest) :=
      Text.upTo?_eq_some_iff.2 ⟨rfl, hne, h⟩
    simp [readScrapbox?, Text.after?, hupTo, hne]

/-- Text without a star goes on up to the stars that close it. -/
theorem close?_append {last : Char} {t : Text} (hstar : '*' ∉ t) (hline : '\n' ∉ t)
    (hlast : isBlank (t.getLast?.getD last) = false) (rest : Text) :
    close? last (t ++ stars ++ rest) = some (t, rest) := by
  induction t generalizing last with
  | nil =>
    have hblank : isBlank last = false := hlast
    simp [close?, stars, Text.after?, hblank]
  | cons c t ih =>
    rw [List.mem_cons, not_or] at hstar hline
    have hnone : Text.after? stars (c :: (t ++ stars ++ rest)) = none := by
      simp [stars, Text.after?, hstar.1]
    rw [List.getLast?_cons, Option.getD_some] at hlast
    simp only [List.cons_append, close?, hnone, if_neg (Ne.symm hline.1),
      ih hstar.2 hline.2 hlast, Option.map_some]

theorem readMarkdown?_append {t : Text} (hne : t ≠ []) (hstar : '*' ∉ t) (hline : '\n' ∉ t)
    (hhead : ∀ c ∈ t.head?, isBlank c = false) (hlast : ∀ c ∈ t.getLast?, isBlank c = false)
    (rest : Text) : readMarkdown? (toMarkdown t ++ rest) = some (t, rest) := by
  obtain ⟨c, t, rfl⟩ := List.exists_cons_of_ne_nil hne
  have hlast : isBlank (((c :: t).getLast?).getD '*') = false := by
    rw [List.getLast?_cons, Option.getD_some]
    exact hlast _ (by rw [List.getLast?_cons]; rfl)
  have hc : isBlank c = false := hhead c rfl
  have hclose := close?_append hstar hline hlast rest
  simpa [readMarkdown?, toMarkdown, hc] using hclose

theorem newline_notMem_of_close? {last : Char} {s t rest : Text}
    (h : close? last s = some (t, rest)) : '\n' ∉ t := by
  induction s generalizing last t with
  | nil => simp [close?] at h
  | cons c s ih =>
    simp only [close?] at h
    split at h
    · simp only [Option.some.injEq, Prod.mk.injEq] at h
      obtain ⟨rfl, -⟩ := h
      exact List.not_mem_nil
    · split_ifs at h with hc
      obtain ⟨⟨t', rest'⟩, h', h''⟩ := Option.map_eq_some_iff.1 h
      simp only [Prod.mk.injEq] at h''
      obtain ⟨rfl, rfl⟩ := h''
      rw [List.mem_cons, not_or]
      exact ⟨Ne.symm hc, ih h'⟩

theorem newline_notMem_of_readMarkdown? {s t rest : Text}
    (h : markdown.read? s = some (t, rest)) : '\n' ∉ t := by
  simp only [markdown, readMarkdown?, Option.bind_eq_bind, Option.bind_eq_some_iff,
    Option.ite_none_left_eq_some] at h
  obtain ⟨_, -, -, h⟩ := h
  exact newline_notMem_of_close? h

end Bold

end Dialects
