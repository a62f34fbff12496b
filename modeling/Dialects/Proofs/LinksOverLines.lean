import Dialects.Proofs.Characters
import Dialects.Proofs.Notations
import Dialects.Proofs.Opacity

/-!
# Links over several lines

Prose without fences is converted line by line exactly if every link that the link rule finds in it
is on one line (`Markdown.text_toScrapbox_eq_ofLines_iff`). Up to the first link that is not, the
lines convert alike in the text and alone (`InlineRule.link_append_newline_cases`). There the rule
puts the lines of the address before those of the label, and so a line with a space in it where,
alone, one with a parenthesis stays. No rule behind it takes the one for the other
(`Markdown.boldLine_ne`), and the two words of lines cannot agree around them
(`eq_of_append_cons_append`).
-/

namespace Dialects

/-- Words that agree in both orders up to one letter agree in that letter. -/
theorem eq_of_append_cons_append {α : Type} {a b : α} {x y r r' : List α}
    (h : y ++ a :: (x ++ r) = x ++ b :: (y ++ r')) : a = b := by
  obtain ⟨n, hn⟩ : ∃ n, x.length + y.length = n := ⟨_, rfl⟩
  induction n using Nat.strong_induction_on generalizing a b x y r r' with
  | _ n ih =>
    rcases List.append_eq_append_iff.1 h with ⟨z, rfl, hz⟩ | ⟨z, rfl, hz⟩
    · cases z with
      | nil => exact (List.cons.inj hz).1
      | cons c z =>
        obtain ⟨rfl, hz⟩ := List.cons.inj hz
        have hword : y ++ a :: (z ++ r) = z ++ b :: (y ++ r') := by simpa using hz
        exact ih (z.length + y.length) (by simp at hn; omega) hword rfl
    · cases z with
      | nil => exact (List.cons.inj hz).1.symm
      | cons c z =>
        obtain ⟨rfl, hz⟩ := List.cons.inj hz
        have hword : z ++ a :: (x ++ r) = x ++ b :: (z ++ r') := by simpa using hz.symm
        exact ih (x.length + z.length) (by simp at hn; omega) hword rfl

namespace Text

theorem exists_lines_eq_concat (s : Text) : ∃ ls l, s.lines = ls ++ [l] := by
  rcases List.eq_nil_or_concat s.lines with h | h
  · exact absurd h s.lines_ne_nil
  · simpa using h

theorem lines_append {s l : Text} {ls : List Text} (h : s.lines = ls ++ [l]) (t : Text) :
    (s ++ t).lines = ls ++ (l ++ t).lines := by
  induction s using line_induction generalizing ls with
  | last s hs =>
    rw [lines_of_notMem hs] at h
    obtain ⟨rfl, rfl⟩ : ls = [] ∧ s = l := by
      cases ls <;> simp_all
    rfl
  | more line rest hline ih =>
    rw [lines_append_newline, lines_of_notMem hline, List.singleton_append] at h
    cases ls with
    | nil =>
      obtain ⟨-, hnil⟩ := List.cons.inj h
      exact absurd hnil rest.lines_ne_nil
    | cons first ls =>
      obtain ⟨rfl, hrest⟩ := List.cons.inj h
      rw [List.append_assoc, List.cons_append, lines_append_newline, lines_of_notMem hline,
        ih hrest]
      rfl

theorem lines_append_line {s l t : Text} {ls : List Text} (h : s.lines = ls ++ [l])
    (ht : '\n' ∉ t) (u : Text) :
    (s ++ (t ++ '\n' :: u)).lines = ls ++ (l ++ t) :: u.lines := by
  have hl : '\n' ∉ l := notMem_of_mem_lines (s := s) (by simp [h])
  have hlt : '\n' ∉ l ++ t := by simp [hl, ht]
  rw [lines_append h, ← List.append_assoc l, lines_append_newline, lines_of_notMem hlt]
  rfl

end Text

namespace InlineRule

theorem newline_notMem_toScrapbox (rule : InlineRule) {s : Text} (h : '\n' ∉ s) :
    '\n' ∉ rule.toScrapbox s := by
  rw [← List.forall_mem_ne'] at h ⊢
  cases rule with
  | link =>
    refine Link.markdown_readsBack.forall_mem_replace (P := (· ≠ '\n')) (fun l hl => ?_) h
    simp only [Link.toMarkdown, Link.toScrapbox, List.forall_mem_append, List.forall_mem_cons]
      at hl ⊢
    simp_all
  | bold =>
    refine Bold.markdown_readsBack.forall_mem_replace (P := (· ≠ '\n')) (fun t ht => ?_) h
    simp only [Bold.toMarkdown, Bold.toScrapbox, List.forall_mem_append, List.forall_mem_cons]
      at ht ⊢
    simp_all

theorem lines_bold (s : Text) :
    (toScrapbox .bold s).lines = s.lines.map (toScrapbox .bold) := by
  induction s using Text.line_induction with
  | last line hline =>
    rw [Text.lines_of_notMem hline, Text.lines_of_notMem (newline_notMem_toScrapbox .bold hline)]
    rfl
  | more line rest hline ih =>
    have hsplit : toScrapbox .bold (line ++ '\n' :: rest)
        = toScrapbox .bold line ++ '\n' :: toScrapbox .bold rest :=
      Bold.markdown_staysOnLine.replace_append_newline line rest
    rw [hsplit, Text.lines_append_newline, Text.lines_append_newline, ih, List.map_append,
      Text.lines_of_notMem hline, Text.lines_of_notMem (newline_notMem_toScrapbox .bold hline)]
    rfl

/-- A link has a closing bracket in front of its closing parenthesis. -/
theorem link_append_of_notMem {u s : Text} (hu : ']' ∉ u) (hs : ')' ∉ s) :
    toScrapbox .link (u ++ s) = u ++ s := by
  refine Pattern.replace_of_found_eq_nil (Pattern.found_eq_nil_iff.2 fun t ht => ?_)
  rcases hr : Link.markdown.read? t with _ | ⟨l, rest⟩
  · rfl
  obtain ⟨rfl, -, -, -⟩ := Link.readMarkdown?_eq_some_iff.1 hr
  obtain ⟨before, hbefore⟩ := ht
  have hbracket : u ++ s = (before ++ '[' :: l.label) ++ ']' :: ('(' :: l.url ++ ')' :: rest) := by
    rw [← hbefore]
    simp [Link.toMarkdown]
  obtain ⟨w, rfl⟩ := Text.exists_eq_append_cons_of_notMem_left hu hbracket
  simp at hs

theorem link_of_bracket_notMem {s : Text} (h : ']' ∉ s) : toScrapbox .link s = s := by
  simpa using link_append_of_notMem h (s := []) (by simp)

theorem link_of_parenthesis_notMem {s : Text} (h : ')' ∉ s) : toScrapbox .link s = s :=
  link_append_of_notMem (u := []) (by simp) h

/-- Either the line and the text behind it have their links each for themselves, or the first link
that is not on the line starts there and reaches over its end. -/
theorem link_append_newline_cases {line : Text} (hline : '\n' ∉ line) (rest : Text) :
    (toScrapbox .link (line ++ '\n' :: rest)
          = toScrapbox .link line ++ '\n' :: toScrapbox .link rest
        ∧ ((∀ p ∈ (Link.markdown.split (line ++ '\n' :: rest)).found, '\n' ∉ p.1.toMarkdown)
          ↔ ∀ p ∈ (Link.markdown.split rest).found, '\n' ∉ p.1.toMarkdown))
      ∨ ∃ u v l behind, '\n' ∉ u ∧ '\n' ∉ v
        ∧ Link.markdown.read? ('[' :: v ++ '\n' :: rest) = some (l, behind) ∧ '\n' ∈ l.toMarkdown
        ∧ toScrapbox .link line = u ++ toScrapbox .link ('[' :: v)
        ∧ toScrapbox .link (line ++ '\n' :: rest)
            = u ++ (l.toScrapbox ++ toScrapbox .link behind)
        ∧ ¬ ∀ p ∈ (Link.markdown.split (line ++ '\n' :: rest)).found,
            '\n' ∉ p.1.toMarkdown := by
  simp only [toScrapbox]
  induction line using Pattern.split_induction Link.markdown with
  | nil =>
    have hnone : Link.markdown.read? ('\n' :: rest) = none :=
      Link.markdown_startsWith.read?_eq_none (by simp)
    rw [List.nil_append, Pattern.replace_of_none hnone, Pattern.split_of_none hnone,
      Pattern.replace_nil]
    exact .inl ⟨rfl, Iff.rfl⟩
  | read c line l behind hr ih =>
    obtain ⟨heq, hlabel, hurl⟩ := Link.readMarkdown?_eq_some_iff.1 hr
    have hread : Link.markdown.read? (c :: line ++ '\n' :: rest)
        = some (l, behind ++ '\n' :: rest) := by
      refine Link.readMarkdown?_eq_some_iff.2 ⟨?_, hlabel, hurl⟩
      rw [heq, List.append_assoc]
    rw [heq, List.mem_append, not_or] at hline
    have hl : '\n' ∉ l.toScrapbox := by
      have hl := hline.1
      simp only [Link.toMarkdown, Link.toScrapbox, List.mem_append, List.mem_cons] at hl ⊢
      simp_all
    rw [Pattern.replace_of_read? hread, Pattern.split_of_read? hread, List.forall_mem_cons,
      Pattern.replace_of_read? hr, and_iff_right hline.1]
    rcases ih hline.2 with ⟨hlink, hfound⟩
      | ⟨u, v, l', behind', hu, hv, hread', hover, halone, hlink, hfound⟩
    · exact .inl ⟨by rw [hlink, List.append_assoc], hfound⟩
    · refine .inr ⟨l.toScrapbox ++ u, v, l', behind', ?_, hv, hread', hover, ?_, ?_, hfound⟩
      · rw [List.mem_append, not_or]
        exact ⟨hl, hu⟩
      · rw [halone, List.append_assoc]
      · rw [hlink, List.append_assoc]
  | other c line hr ih =>
    rw [List.mem_cons, not_or] at hline
    rcases hread : Link.markdown.read? (c :: (line ++ '\n' :: rest)) with _ | ⟨l, behind⟩
    · rw [List.cons_append, Pattern.replace_of_none hread, Pattern.split_of_none hread,
        Pattern.replace_of_none hr]
      rcases ih hline.2 with ⟨hlink, hfound⟩
        | ⟨u, v, l', behind', hu, hv, hread', hover, halone, hlink, hfound⟩
      · exact .inl ⟨by rw [hlink, List.cons_append], hfound⟩
      · refine .inr ⟨c :: u, v, l', behind', ?_, hv, hread', hover, ?_, ?_, hfound⟩
        · rw [List.mem_cons, not_or]
          exact ⟨hline.1, hu⟩
        · rw [halone, List.cons_append]
        · rw [hlink, List.cons_append]
    · obtain ⟨heq, hlabel, hurl⟩ := Link.readMarkdown?_eq_some_iff.1 hread
      have hover : '\n' ∈ l.toMarkdown := by
        by_contra hl
        -- all of the link would be on the line, and be read there
        obtain ⟨w, hw⟩ := (Text.prefix_append_cons_iff hl (c :: line) rest).1 ⟨behind, heq.symm⟩
        have hsome : Link.markdown.read? (c :: line) = some (l, w) :=
          Link.readMarkdown?_eq_some_iff.2 ⟨hw.symm, hlabel, hurl⟩
        rw [hsome] at hr
        cases hr
      obtain ⟨rfl, -⟩ := List.cons.inj heq
      refine .inr ⟨[], line, l, behind, by simp, hline.2, hread, hover, rfl, ?_, ?_⟩
      · exact Pattern.replace_of_read? hread
      · rw [List.cons_append, Pattern.split_of_read? hread, List.forall_mem_cons]
        exact fun h => h.1 hover

end InlineRule

namespace Bold

/-- The text without the characters that bold text is set in. -/
def bare (s : Text) : Text := s.filter (· ∉ ['*', '[', ']'])

theorem bare_append (s t : Text) : bare (s ++ t) = bare s ++ bare t := List.filter_append s t

theorem bare_cons {c : Char} (hc : c ∉ ['*', '[', ']']) (s : Text) :
    bare (c :: s) = c :: bare s :=
  List.filter_cons_of_pos (decide_eq_true hc)

theorem bare_append_cons_ne {c : Char} (hc : c ∉ ['*', '[', ']']) (s t : Text) :
    bare (s ++ c :: t) ≠ bare t := by
  intro h
  have hlength := congrArg List.length h
  rw [bare_append, bare_cons hc, List.length_append, List.length_cons] at hlength
  omega

theorem mem_of_mem_bare {c : Char} {s : Text} (h : c ∈ bare s) : c ∈ s := List.mem_of_mem_filter h

theorem bare_toScrapbox (s : Text) : bare (InlineRule.toScrapbox .bold s) = bare s := by
  simp only [InlineRule.toScrapbox]
  induction s using Pattern.split_induction markdown with
  | nil => rw [Pattern.replace_nil]
  | read c s t rest hr ih =>
    have hmarks : bare (toScrapbox t) = bare (toMarkdown t) := by
      simp [bare, toScrapbox, toMarkdown, stars]
    rw [Pattern.replace_of_read? hr, bare_append, ih, hmarks, ← bare_append,
      ← markdown_readsBack hr]
  | other c s hr ih =>
    rw [Pattern.replace_of_none hr, ← List.singleton_append, bare_append, ih, ← bare_append]
    rfl

open Markdown in
/-- In front of an opening bracket, what the line is shows in front of the first star. -/
theorem exists_toScrapbox_append (u : Text) :
    ∃ v, ∀ w, ∃ c t, IsUnmarked c
      ∧ InlineRule.toScrapbox .bold (u ++ '[' :: w) = v ++ c :: t := by
  have hbracket : IsUnmarked '[' := ⟨by decide, by decide, by decide⟩
  have hstar : IsUnmarked '*' := ⟨by decide, by decide, by decide⟩
  by_cases hmem : '*' ∈ u
  · obtain ⟨v, u, rfl, hv⟩ := List.eq_append_cons_of_mem hmem
    refine ⟨v, fun w => ?_⟩
    have hskip : InlineRule.toScrapbox .bold (v ++ '*' :: (u ++ '[' :: w))
        = v ++ InlineRule.toScrapbox .bold ('*' :: (u ++ '[' :: w)) :=
      markdown_startsWith.replace_append hv
    rw [List.append_assoc, List.cons_append, hskip]
    rcases hr : markdown.read? ('*' :: (u ++ '[' :: w)) with _ | ⟨t, rest⟩
    · exact ⟨'*', _, hstar, congrArg (v ++ ·) (Pattern.replace_of_none hr)⟩
    · exact ⟨'[', _, hbracket, congrArg (v ++ ·) (Pattern.replace_of_read? hr)⟩
  · refine ⟨u, fun w => ⟨'[', InlineRule.toScrapbox .bold w, hbracket, ?_⟩⟩
    have hnone : markdown.read? ('[' :: w) = none := markdown_startsWith.read?_eq_none (by simp)
    exact (markdown_startsWith.replace_append hmem).trans
      (congrArg (u ++ ·) (Pattern.replace_of_none hnone))

end Bold

namespace Markdown

open Bold InlineRule

/-- The line behind the link rule, in Scrapbox's form. -/
def boldLine (line : Text) : Text := structureLine (InlineRule.toScrapbox .bold line)

theorem lines_convertProse (s : Text) :
    (convertProse false s).lines = (InlineRule.toScrapbox .link s).lines.map boldLine := by
  rw [convertProse_false, lines_structureLines, allToScrapbox_eq, lines_bold, List.map_map]
  rfl

theorem bare_eq_of_boldLine_eq {u x y : Text}
    (h : boldLine (u ++ '[' :: x) = boldLine (u ++ '[' :: y)) : bare x = bare y := by
  obtain ⟨v, hv⟩ := exists_toScrapbox_append u
  obtain ⟨w, hw⟩ := exists_structureLine_append v
  obtain ⟨c, t, hc, hx⟩ := hv x
  obtain ⟨d, t', hd, hy⟩ := hv y
  rw [boldLine, boldLine, hx, hy, hw c t hc, hw d t' hd, List.append_cancel_left_eq] at h
  have hbare : bare (u ++ '[' :: x) = bare (u ++ '[' :: y) := by
    rw [← bare_toScrapbox, hx, h, ← hy, bare_toScrapbox]
  rw [bare_append, bare_append, List.append_cancel_left_eq] at hbare
  exact hbare

/-- No mark in front of a line takes the place of a parenthesis in it. -/
theorem boldLine_ne {x y : Text} (h : bare x = bare y) (u v : Text) :
    boldLine (u ++ ' ' :: x) ≠ boldLine (v ++ '(' :: y) := by
  intro heq
  obtain ⟨lead, mark, t, hlead, hline, hnot⟩ :=
    exists_structureLine_eq (InlineRule.toScrapbox .bold (u ++ ' ' :: x))
  obtain ⟨lead', mark', t', hlead', hline', hnone⟩ :=
    exists_structureLine_eq (InlineRule.toScrapbox .bold (v ++ '(' :: y))
  have hspace : bare lead ++ bare t = bare u ++ ' ' :: bare x := by
    rw [← bare_append, ← hlead, bare_toScrapbox, bare_append, bare_cons (by simp)]
  have hparen : bare lead' ++ bare t' = bare v ++ '(' :: bare y := by
    rw [← bare_append, ← hlead', bare_toScrapbox, bare_append, bare_cons (by simp)]
  have hmarks : bare mark ++ bare t = bare mark' ++ bare t' := by
    rw [← bare_append, ← bare_append, ← hline, ← hline']
    exact congrArg bare heq
  -- the parenthesis stands behind both marks, as many characters from the end as the space
  obtain ⟨w, hw⟩ := Text.exists_eq_append_cons_of_notMem_left
    (fun hm => (hnone '(' (by simp)).1 (mem_of_mem_bare hm)) hparen
  rw [hw, ← List.append_assoc] at hmarks
  obtain ⟨w', hw'⟩ := Text.exists_eq_append_cons_of_notMem_left
    (fun hm => (hnot '(' (by simp)).2 (mem_of_mem_bare hm)) hmarks
  rw [hw', ← List.append_assoc, h] at hspace
  have hcons := (List.append_inj' hspace rfl).2
  simp at hcons

theorem bare_eq_of_map_boldLine_eq {u x y s : Text} {later : List Text} (hu : '\n' ∉ u)
    (hx : '\n' ∉ x)
    (h : (u ++ '[' :: (x ++ '\n' :: s)).lines.map boldLine = boldLine (u ++ '[' :: y) :: later) :
    bare x = bare y ∧ s.lines.map boldLine = later := by
  have hfirst : '\n' ∉ u ++ '[' :: x := by simp [hu, hx]
  have hsplit : u ++ '[' :: (x ++ '\n' :: s) = u ++ '[' :: x ++ '\n' :: s := by simp
  rw [hsplit, Text.lines_append_newline, Text.lines_of_notMem hfirst, List.singleton_append,
    List.map_cons] at h
  obtain ⟨hline, hlater⟩ := List.cons.inj h
  exact ⟨bare_eq_of_boldLine_eq hline, hlater⟩

/-- The lines `x`, `m` of a label and `y`, `w` of an address, in the order of the link rule and in
that of the text. -/
theorem map_boldLine_ne {x m y w : Text} (hx : '\n' ∉ x) (hy : '\n' ∉ y) (hm : ']' ∉ m)
    (hw : ')' ∉ w) (hy' : ')' ∉ y) (h : bare x = bare y) (s t : Text) :
    (w ++ (' ' :: x ++ '\n' :: (m ++ s))).lines.map boldLine
      ≠ (m ++ ([']', '('] ++ y ++ '\n' :: (w ++ t))).lines.map fun line =>
          boldLine (InlineRule.toScrapbox .link line) := by
  obtain ⟨ms, m', hms⟩ := m.exists_lines_eq_concat
  obtain ⟨ws, w', hws⟩ := w.exists_lines_eq_concat
  have hlabel : ∀ line ∈ ms ++ [m'], ']' ∉ line := fun line hline =>
    Text.notMem_of_mem_lines_of_notMem (hms ▸ hline) hm
  have hurl : ∀ line ∈ ws ++ [w'], ')' ∉ line := fun line hline =>
    Text.notMem_of_mem_lines_of_notMem (hws ▸ hline) hw
  rw [List.forall_mem_append, List.forall_mem_singleton] at hlabel hurl
  have hms' : (ms.map fun line => boldLine (InlineRule.toScrapbox .link line)) = ms.map boldLine :=
    List.map_congr_left fun line hline => congrArg boldLine
      (link_of_bracket_notMem (hlabel.1 line hline))
  have hws' : (ws.map fun line => boldLine (InlineRule.toScrapbox .link line)) = ws.map boldLine :=
    List.map_congr_left fun line hline => congrArg boldLine
      (link_of_parenthesis_notMem (hurl.1 line hline))
  have hmiddle : InlineRule.toScrapbox .link (m' ++ ([']', '('] ++ y))
      = m' ++ [']'] ++ '(' :: y := by
    rw [link_append_of_notMem hlabel.2 (by simp [hy'])]
    simp
  rw [Text.lines_append_line hws (by simp [hx]), Text.lines_append_line hms (by simp [hy]),
    Text.lines_append hms, Text.lines_append hws]
  simp only [List.map_append, List.map_cons, hms', hws', hmiddle]
  intro heq
  exact boldLine_ne h w' (m' ++ [']']) (eq_of_append_cons_append heq)

/-- A link over several lines changes what the lines are. -/
theorem map_boldLine_link_ne {u v rest behind : Text} {l : Link} (hu : '\n' ∉ u) (hv : '\n' ∉ v)
    (hread : Link.markdown.read? ('[' :: v ++ '\n' :: rest) = some (l, behind))
    (hover : '\n' ∈ l.toMarkdown) (s : Text) :
    (u ++ (l.toScrapbox ++ s)).lines.map boldLine
      ≠ boldLine (u ++ InlineRule.toScrapbox .link ('[' :: v))
          :: rest.lines.map fun line => boldLine (InlineRule.toScrapbox .link line) := by
  obtain ⟨heq, ⟨-, hlabel⟩, -, hurl⟩ := Link.readMarkdown?_eq_some_iff.1 hread
  obtain ⟨label, url⟩ := l
  intro h
  -- with a line feed in one of label and address the first lines differ; with one in both they can
  -- agree, and the lines behind them differ
  by_cases hlabel' : '\n' ∈ label
  · obtain ⟨x, m, rfl, hx⟩ := List.eq_append_cons_of_mem hlabel'
    have htext : v ++ '\n' :: rest = x ++ '\n' :: (m ++ ([']', '('] ++ url ++ ')' :: behind)) := by
      simpa [Link.toMarkdown] using heq
    obtain ⟨rfl, rfl⟩ := Text.append_cons_inj hv hx htext
    rw [List.mem_append, List.mem_cons, not_or, not_or] at hlabel
    obtain ⟨hopen, -, hm⟩ := hlabel
    rw [link_of_bracket_notMem (s := '[' :: v) (by simpa using hopen)] at h
    by_cases hurl' : '\n' ∈ url
    · obtain ⟨y, w, rfl, hy⟩ := List.eq_append_cons_of_mem hurl'
      rw [List.mem_append, List.mem_cons, not_or, not_or] at hurl
      have hlines : u ++ (Link.toScrapbox ⟨v ++ '\n' :: m, y ++ '\n' :: w⟩ ++ s)
          = u ++ '[' :: (y ++ '\n' :: (w ++ (' ' :: v ++ '\n' :: (m ++ ']' :: s)))) := by
        simp [Link.toScrapbox]
      rw [hlines] at h
      obtain ⟨hfirst, hlater⟩ := bare_eq_of_map_boldLine_eq hu hy h
      refine map_boldLine_ne hv hy hm hurl.2.2 hurl.1 hfirst.symm (']' :: s) (')' :: behind) ?_
      simpa using hlater
    · have hlines : u ++ (Link.toScrapbox ⟨v ++ '\n' :: m, url⟩ ++ s)
          = u ++ '[' :: (url ++ ' ' :: v ++ '\n' :: (m ++ ']' :: s)) := by
        simp [Link.toScrapbox]
      rw [hlines] at h
      have hfirst := (bare_eq_of_map_boldLine_eq hu (by simp [hurl', hv]) h).1
      exact bare_append_cons_ne (by simp) url v hfirst
  · obtain ⟨y, w, rfl, hy⟩ : ∃ y w, url = y ++ '\n' :: w ∧ '\n' ∉ y :=
      List.eq_append_cons_of_mem (by simpa [Link.toMarkdown, hlabel'] using hover)
    have htext : v ++ '\n' :: rest
        = label ++ [']', '('] ++ y ++ '\n' :: (w ++ ')' :: behind) := by
      simpa [Link.toMarkdown] using heq
    obtain ⟨rfl, rfl⟩ := Text.append_cons_inj hv (by simp [hlabel', hy]) htext
    rw [List.mem_append, not_or] at hurl
    have hlink : InlineRule.toScrapbox .link ('[' :: (label ++ [']', '('] ++ y))
        = '[' :: (label ++ [']', '('] ++ y) := by
      have hlink := link_append_of_notMem (u := '[' :: label) (by simpa using hlabel)
        (s := [']', '('] ++ y) (by simp [hurl.1])
      simpa using hlink
    have hlines : u ++ (Link.toScrapbox ⟨label, y ++ '\n' :: w⟩ ++ s)
        = u ++ '[' :: (y ++ '\n' :: (w ++ ' ' :: (label ++ ']' :: s))) := by
      simp [Link.toScrapbox]
    rw [hlink, hlines] at h
    have hfirst := (bare_eq_of_map_boldLine_eq hu hy h).1
    refine bare_append_cons_ne (c := '(') (by simp) (label ++ [']']) y ?_
    simpa using hfirst.symm

theorem convertProse_of_notMem {line : Text} (h : '\n' ∉ line) :
    convertProse false line = boldLine (InlineRule.toScrapbox .link line) := by
  have hlines := lines_convertProse line
  rw [Text.lines_of_notMem (newline_notMem_toScrapbox .link h), List.map_singleton] at hlines
  rw [← Text.ofLines_lines (convertProse false line), hlines, Text.ofLines_singleton]

theorem map_boldLine_link_eq_iff (s : Text) :
    (InlineRule.toScrapbox .link s).lines.map boldLine
        = s.lines.map (fun line => boldLine (InlineRule.toScrapbox .link line))
      ↔ ∀ p ∈ (Link.markdown.split s).found, '\n' ∉ p.1.toMarkdown := by
  induction s using Text.line_induction with
  | last line hline =>
    rw [Text.lines_of_notMem hline, Text.lines_of_notMem (newline_notMem_toScrapbox .link hline)]
    refine iff_of_true rfl fun p hp hm => hline ?_
    rw [← Pattern.join_split Link.markdown_readsBack line, Split.join, List.mem_append,
      List.mem_flatMap]
    exact .inr ⟨p, hp, List.mem_append_left _ hm⟩
  | more line rest hline ih =>
    rw [Text.lines_append_newline line rest, Text.lines_of_notMem hline, List.singleton_append,
      List.map_cons]
    rcases link_append_newline_cases hline rest with ⟨hlink, hfound⟩
      | ⟨u, v, l, behind, hu, hv, hread, hover, halone, hlink, hfound⟩
    · have hfirst := newline_notMem_toScrapbox .link hline
      rw [hlink, Text.lines_append_newline, Text.lines_of_notMem hfirst, List.singleton_append,
        List.map_cons, hfound, ← ih]
      simp
    · rw [hlink, halone]
      exact iff_of_false (map_boldLine_link_ne hu hv hread hover _) hfound

theorem convertProse_eq_ofLines_iff (s : Text) :
    convertProse false s = Text.ofLines (s.lines.map (convertProse false))
      ↔ ∀ p ∈ (Link.markdown.split s).found, '\n' ∉ p.1.toMarkdown := by
  have hlines : s.lines.map (convertProse false)
      = s.lines.map fun line => boldLine (InlineRule.toScrapbox .link line) :=
    List.map_congr_left fun line hline => convertProse_of_notMem (Text.notMem_of_mem_lines hline)
  have hnewline : ∀ line ∈ s.lines.map (convertProse false), '\n' ∉ line := by
    intro line hmem
    obtain ⟨line, hline, rfl⟩ := List.mem_map.1 hmem
    have hnot := Text.notMem_of_mem_lines hline
    rw [convertProse_of_notMem hnot]
    exact newline_notMem_structureLine
      (newline_notMem_toScrapbox .bold (newline_notMem_toScrapbox .link hnot))
  rw [← map_boldLine_link_eq_iff, ← lines_convertProse, ← hlines]
  constructor
  · intro h
    rw [h, Text.lines_ofLines hnewline (by simpa using s.lines_ne_nil)]
  · intro h
    rw [← h, Text.ofLines_lines]

/-- Prose without fences is converted as its lines are, one by one, exactly if each link that the
link rule finds in it is on one line. Bold text always is. -/
theorem text_toScrapbox_eq_ofLines_iff {s : Text} (hs : ¬ CodeBlock.fence <:+: s)
    (default : Text) :
    ((toScrapbox default s).text
          = Text.ofLines (s.lines.map fun line => (toScrapbox default line).text)
        ↔ ∀ p ∈ (Link.markdown.split s).found, '\n' ∉ p.1.toMarkdown)
      ∧ ∀ p ∈ (Bold.markdown.split (InlineRule.toScrapbox .link s)).found, '\n' ∉ p.1 := by
  have hlines : (s.lines.map fun line => (toScrapbox default line).text)
      = s.lines.map (convertProse false) := by
    refine List.map_congr_left fun line hline => ?_
    have hfence : ¬ CodeBlock.fence <:+: line := by
      intro hin
      have hofLines := CodeBlock.fence_infix_ofLines.2 ⟨line, hline, hin⟩
      rw [Text.ofLines_lines] at hofLines
      exact hs hofLines
    rw [toScrapbox_eq_convertFrom, convertFrom_of_no_fence default false hfence]
  rw [hlines, toScrapbox_eq_convertFrom, convertFrom_of_no_fence default false hs]
  exact ⟨convertProse_eq_ofLines_iff s,
    Pattern.forall_mem_found newline_notMem_of_readMarkdown? _⟩

/-- Brackets and parentheses that are open over line feeds make no link, or one. -/
theorem text_toScrapbox_eq_ofLines_brackets :
    ¬ CodeBlock.fence <:+: "- [a](b) [c\n(d) **e**]\n(f [g](h)".toList
      ∧ (toScrapbox CodeBlock.usualLanguage "- [a](b) [c\n(d) **e**]\n(f [g](h)".toList).text
          = Text.ofLines ((Text.lines "- [a](b) [c\n(d) **e**]\n(f [g](h)".toList).map fun line =>
              (toScrapbox CodeBlock.usualLanguage line).text)
      ∧ ¬ CodeBlock.fence <:+: "[a\nb](c)".toList
      ∧ (toScrapbox CodeBlock.usualLanguage "[a\nb](c)".toList).text
          ≠ Text.ofLines ((Text.lines "[a\nb](c)".toList).map fun line =>
              (toScrapbox CodeBlock.usualLanguage line).text) := by
  have hfence : ¬ CodeBlock.fence <:+: "- [a](b) [c\n(d) **e**]\n(f [g](h)".toList := by
    decide +kernel
  have hfence' : ¬ CodeBlock.fence <:+: "[a\nb](c)".toList := by decide +kernel
  have hlines := text_toScrapbox_eq_ofLines_iff hfence CodeBlock.usualLanguage
  have hlines' := text_toScrapbox_eq_ofLines_iff hfence' CodeBlock.usualLanguage
  exact ⟨hfence, hlines.1.2 (by decide +kernel), hfence',
    fun h => absurd (hlines'.1.1 h) (by decide +kernel)⟩

end Markdown

end Dialects
