import Dialects.Proofs.Notations

/-!
# Converted links and bold text

The bold rule sees the links that the link rule has written as text like any other. A bracket of
theirs is read as bold text if the next closing one has no parenthesis behind it. Behind the label
stands one, so the label is safe. The address is not: its brackets are left open, and what closes
them stands behind the link (`Bold.closesBracket_append_iff`). So each link is kept exactly if no
bracket is open in it, or none is closed behind it (`InlineRule.allToMarkdown_eq_join_iff`).
-/

namespace Dialects

namespace Bold

/-- With a bracket open in front of it, the text would make bold text of what is behind that. -/
def ClosesBracket (s : Text) : Prop :=
  match s.dropWhile (· ≠ ']') with
  | [] => False
  | _ :: rest => rest.head? ≠ some '('

instance : DecidablePred ClosesBracket := fun s => by
  unfold ClosesBracket
  split <;> infer_instance

theorem closesBracket_append {u : Text} (hu : ']' ∉ u) (s : Text) :
    ClosesBracket (u ++ s) ↔ ClosesBracket s := by
  have hopen : ∀ c ∈ u, decide (c ≠ ']') = true := by
    intro c hc
    simp only [ne_eq, decide_eq_true_eq]
    rintro rfl
    exact hu hc
  rw [ClosesBracket, List.dropWhile_append_of_pos hopen, ClosesBracket]

theorem closesBracket_cons (s : Text) : ClosesBracket (']' :: s) ↔ s.head? ≠ some '(' := by
  rw [ClosesBracket, List.dropWhile_cons_of_neg (by simp)]

theorem not_closesBracket_of_notMem {s : Text} (h : ']' ∉ s) : ¬ ClosesBracket s := by
  have hnil := closesBracket_append h []
  rw [List.append_nil] at hnil
  rw [hnil]
  exact id

section

variable {s t : Text} (ht : ¬ ClosesBracket t) (hhead : t.head? ≠ some '(')
include ht hhead

theorem closesBracket_append_iff : ClosesBracket (s ++ t) ↔ ClosesBracket s := by
  by_cases hs : ']' ∈ s
  · obtain ⟨u, w, rfl, hu⟩ := List.eq_append_cons_of_mem hs
    rw [List.append_assoc, closesBracket_append hu, closesBracket_append hu, List.cons_append,
      closesBracket_cons, closesBracket_cons]
    cases w <;> simp [hhead]
  · rw [closesBracket_append hs]
    simp [ht, not_closesBracket_of_notMem hs]

end

/-- Behind a label stands a parenthesis. -/
theorem not_closesBracket_link {l : Link} (h : ']' ∉ l.label) (s : Text) :
    ¬ ClosesBracket (l.toMarkdown ++ s) := by
  have hopen : ']' ∉ '[' :: l.label := by simpa using h
  rw [l.toMarkdown_append, ← List.cons_append, closesBracket_append hopen, closesBracket_cons]
  simp

theorem read?_eq_none_of_not_closesBracket {s : Text} (h : ¬ ClosesBracket s) :
    readScrapbox? ('[' :: s) = none := by
  rcases hr : readScrapbox? ('[' :: s) with _ | ⟨t, rest⟩
  · rfl
  obtain ⟨heq, -, ht, hhead⟩ := readScrapbox?_eq_some_iff.1 hr
  rw [(List.cons.inj heq).2, closesBracket_append ht, closesBracket_cons] at h
  exact absurd hhead h

end Bold

open Bold

namespace InlineRule

theorem bold_append_of_open_notMem {u : Text} (hu : '[' ∉ u) (s : Text) :
    toMarkdown .bold (u ++ s) = u ++ toMarkdown .bold s :=
  Bold.scrapbox_startsWith.replace_append hu

/-- No bold text starts in a stretch that does not close its brackets, if none is closed behind. -/
theorem bold_append_of_close_notMem {u s : Text} (hu : ']' ∉ u) (hs : ¬ ClosesBracket s) :
    toMarkdown .bold (u ++ s) = u ++ toMarkdown .bold s := by
  refine Pattern.replace_append fun t hne hsuffix => ?_
  obtain ⟨c, t, rfl⟩ := List.exists_cons_of_ne_nil hne
  by_cases hc : c = '['
  · subst hc
    have ht : ']' ∉ t := fun hm => hu (hsuffix.subset (List.mem_cons_of_mem _ hm))
    exact read?_eq_none_of_not_closesBracket ((closesBracket_append ht s).not.2 hs)
  · exact Bold.scrapbox_startsWith.read?_eq_none (by simpa using hc)

theorem bold_append {s t : Text} (ht : ¬ ClosesBracket t) (hhead : t.head? ≠ some '(') :
    toMarkdown .bold (s ++ t) = toMarkdown .bold s ++ toMarkdown .bold t := by
  induction s using Pattern.split_induction Bold.scrapbox with
  | nil => simp [toMarkdown]
  | read c s a rest hr ih =>
    obtain ⟨heq, hne, ha, hrest⟩ := readScrapbox?_eq_some_iff.1 hr
    have hread : Bold.scrapbox.read? (c :: s ++ t) = some (a, rest ++ t) := by
      refine readScrapbox?_eq_some_iff.2 ⟨by simp [heq], hne, ha, ?_⟩
      cases rest with
      | nil => exact hhead
      | cons d rest => simpa using hrest
    simp only [toMarkdown] at ih ⊢
    rw [Pattern.replace_of_read? hread, ih, Pattern.replace_of_read? hr, List.append_assoc]
  | other c s hr ih =>
    have hread : Bold.scrapbox.read? (c :: (s ++ t)) = none := by
      by_cases hc : c = '['
      · subst hc
        by_cases hs : ']' ∈ s
        · obtain ⟨u, w, rfl, hu⟩ := List.eq_append_cons_of_mem hs
          have hunread : u = [] ∨ w.head? = some '(' := by
            by_contra hread
            have hsome := readScrapbox?_bracket hu w
            rw [if_neg hread] at hsome
            exact absurd (hr.symm.trans hsome) (by simp)
          have hbehind : u = [] ∨ (w ++ t).head? = some '(' := by
            refine hunread.imp_right fun hw => ?_
            rw [List.head?_append, hw]
            rfl
          rw [List.append_assoc, List.cons_append]
          exact (readScrapbox?_bracket hu (w ++ t)).trans (if_pos hbehind)
        · exact read?_eq_none_of_not_closesBracket (by rwa [closesBracket_append hs])
      · exact Bold.scrapbox_startsWith.read?_eq_none (by simpa using hc)
    simp only [toMarkdown] at ih ⊢
    rw [List.cons_append, Pattern.replace_of_none hread, ih, Pattern.replace_of_none hr,
      List.cons_append]

section Link

variable {l : Link} (hlabel : ']' ∉ l.label)
include hlabel

theorem bold_label (s : Text) :
    toMarkdown .bold ('[' :: l.label ++ [']', '('] ++ s)
      = '[' :: l.label ++ [']', '('] ++ toMarkdown .bold s := by
  have hopen : ']' ∉ '[' :: l.label := by simpa using hlabel
  have hparen : ¬ ClosesBracket ([']', '('] ++ s) := by simp [closesBracket_cons]
  rw [List.append_assoc, bold_append_of_close_notMem hopen hparen,
    bold_append_of_open_notMem (by simp), List.append_assoc]

theorem bold_link (hurl : ']' ∉ l.url) {s : Text} (h : '[' ∈ l.url → ¬ ClosesBracket s) :
    toMarkdown .bold (l.toMarkdown ++ s) = l.toMarkdown ++ toMarkdown .bold s := by
  have hbehind : toMarkdown .bold (l.url ++ [')'] ++ s)
      = l.url ++ [')'] ++ toMarkdown .bold s := by
    by_cases hopen : '[' ∈ l.url
    · exact bold_append_of_close_notMem (by simpa using hurl) (h hopen)
    · exact bold_append_of_open_notMem (by simpa using hopen) s
  have hlink : ∀ t : Text, l.toMarkdown ++ t
      = '[' :: l.label ++ [']', '('] ++ (l.url ++ [')'] ++ t) := by
    simp [Link.toMarkdown]
  rw [hlink, bold_label hlabel, hbehind, hlink]

/-- A bracket that is open in the address and closed behind the link gives way to stars. -/
theorem bold_link_ne (hurl : ']' ∉ l.url) {s : Text} (hopen : '[' ∈ l.url) (h : ClosesBracket s)
    (t : Text) : toMarkdown .bold (l.toMarkdown ++ s) ≠ l.toMarkdown ++ t := by
  obtain ⟨u, v, huv, hu⟩ := List.eq_append_cons_of_mem hopen
  have hs : ']' ∈ s := by
    by_contra hs
    exact not_closesBracket_of_notMem hs h
  obtain ⟨a, w, rfl, ha⟩ := List.eq_append_cons_of_mem hs
  rw [closesBracket_append ha, closesBracket_cons] at h
  rw [huv, List.mem_append, List.mem_cons, not_or, not_or] at hurl
  have hinner : ']' ∉ v ++ ')' :: a := by simp [hurl.2.2, ha]
  have hread : Bold.scrapbox.read? ('[' :: (v ++ ')' :: a ++ ']' :: w)) = some (v ++ ')' :: a, w) :=
    (readScrapbox?_bracket hinner w).trans (if_neg (by simp [h]))
  have hlink : ∀ t : Text, l.toMarkdown ++ t
      = '[' :: l.label ++ [']', '('] ++ (u ++ '[' :: (v ++ ')' :: t)) := by
    simp [Link.toMarkdown, huv]
  have hstars : toMarkdown .bold (u ++ '[' :: (v ++ ')' :: a ++ ']' :: w))
      = u ++ (Bold.toMarkdown (v ++ ')' :: a) ++ toMarkdown .bold w) := by
    rw [bold_append_of_open_notMem hu]
    exact congrArg (u ++ ·) (Pattern.replace_of_read? hread)
  rw [hlink, bold_label hlabel, hlink]
  simp only [List.append_assoc, List.cons_append] at hstars ⊢
  rw [hstars]
  simp [Bold.toMarkdown, stars]

end Link

/-- The links, each with the text behind it. -/
theorem not_closesBracket_links {found : List (Link × Text)}
    (h : ∀ p ∈ found, ']' ∉ p.1.label ∧ ']' ∉ p.1.url) :
    ¬ ClosesBracket (found.flatMap fun p => p.1.toMarkdown ++ p.2)
      ∧ (found.flatMap fun p => p.1.toMarkdown ++ p.2).head? ≠ some '(' := by
  cases found with
  | nil => exact ⟨not_closesBracket_of_notMem (by simp), by simp⟩
  | cons p found =>
    rw [List.forall_mem_cons] at h
    rw [List.flatMap_cons, List.append_assoc]
    exact ⟨not_closesBracket_link h.1.1 _, by simp [Link.toMarkdown]⟩

theorem bold_links_iff {found : List (Link × Text)}
    (h : ∀ p ∈ found, ']' ∉ p.1.label ∧ ']' ∉ p.1.url) :
    toMarkdown .bold (found.flatMap fun p => p.1.toMarkdown ++ p.2)
        = found.flatMap (fun p => p.1.toMarkdown ++ toMarkdown .bold p.2)
      ↔ ∀ p ∈ found, '[' ∈ p.1.url → ¬ ClosesBracket p.2 := by
  induction found with
  | nil => simp [toMarkdown]
  | cons p found ih =>
    rw [List.forall_mem_cons] at h
    obtain ⟨⟨hlabel, hurl⟩, hfound⟩ := h
    obtain ⟨hclosed, hhead⟩ := not_closesBracket_links hfound
    rw [List.flatMap_cons, List.flatMap_cons, List.forall_mem_cons, List.append_assoc,
      List.append_assoc]
    by_cases hkept : '[' ∈ p.1.url → ¬ ClosesBracket p.2
    · have hbehind := fun hopen => (closesBracket_append_iff hclosed hhead).not.2 (hkept hopen)
      rw [bold_link hlabel hurl hbehind, bold_append hclosed hhead, List.append_cancel_left_eq,
        List.append_cancel_left_eq, ih hfound]
      exact (and_iff_right hkept).symm
    · have hlost := hkept
      rw [Classical.not_imp, not_not] at hlost
      have hbehind := (closesBracket_append_iff hclosed hhead).2 hlost.2
      exact iff_of_false (bold_link_ne hlabel hurl hlost.1 hbehind _) fun h => hkept h.1

/-- Every link that the link rule makes of the text is left by the bold rule as it is, with the text
between the links converted as if they were not there, exactly if no address with a bracket in it
has a bracket behind its link that would close that one as bold text. -/
theorem allToMarkdown_eq_join_iff (s : Text) :
    allToMarkdown s
        = Split.join Link.toMarkdown ⟨toMarkdown .bold (Link.scrapbox.split s).lead,
            (Link.scrapbox.split s).found.map fun p => (p.1, toMarkdown .bold p.2)⟩
      ↔ ∀ p ∈ (Link.scrapbox.split s).found, '[' ∈ p.1.url → ¬ ClosesBracket p.2 := by
  have hfound : ∀ p ∈ (Link.scrapbox.split s).found, ']' ∉ p.1.label ∧ ']' ∉ p.1.url := by
    refine Pattern.forall_mem_found (P := fun l : Link => ']' ∉ l.label ∧ ']' ∉ l.url)
      (fun {s rest l} hr => ?_) s
    obtain ⟨-, -, -, hurl, -, hlabel⟩ := Link.readScrapbox?_eq_some_iff.1 hr
    exact ⟨hlabel, hurl.notMem⟩
  obtain ⟨hclosed, hhead⟩ := not_closesBracket_links hfound
  have hlinks : toMarkdown .link s = (Link.scrapbox.split s).lead
      ++ (Link.scrapbox.split s).found.flatMap fun p => p.1.toMarkdown ++ p.2 := rfl
  rw [allToMarkdown_eq, hlinks, bold_append hclosed hhead, Split.join, List.flatMap_map,
    List.append_cancel_left_eq]
  exact bold_links_iff hfound

example : allToMarkdown "[http://x[y b] c]".toList = "[b](http://x**y) c**".toList := by
  decide +kernel

end InlineRule

end Dialects
