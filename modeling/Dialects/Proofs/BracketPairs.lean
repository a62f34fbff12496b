import Dialects.Proofs.Characters
import Dialects.Proofs.KeptLinks

/-!
# Brackets in pairs

In a text whose brackets come in pairs, each pair on one line, a link of Markdown has a single pair
for its label. Only its address can go on over the end of a stretch, and all it asks of the text
behind is a closing parenthesis (`Link.opens_append`). So a stretch can stand for another one on its
lines if it opens the same links, whatever comes later, and has a parenthesis to close one if the
other has (`Link.SameLinks`).

That the brackets come in pairs is told of each bracket by its own line and the character next to
that. What is told so (`Text.IsToldByLine`) holds of each bracket of a text if it does on each of
its lines (`Text.EachBracket.iff_lines`), and does not care for stretches without a bracket.
-/

namespace Dialects

namespace Text

theorem exists_eq_append_of_newline {u v s t : Text} (hu : '\n' ∉ u)
    (h : s ++ '\n' :: t = u ++ ']' :: v) : ∃ w, s = u ++ ']' :: w ∧ v = w ++ '\n' :: t := by
  obtain ⟨w, hw⟩ := exists_eq_append_cons_of_notMem_left hu h.symm
  cases w with
  | nil => simp at hw
  | cons c w =>
    obtain ⟨rfl, rfl⟩ := List.cons.inj hw
    have hs : s ++ '\n' :: t = u ++ ']' :: w ++ '\n' :: t := h.trans (by simp)
    exact ⟨w, List.append_cancel_right hs, rfl⟩

/-- Each opening bracket of the text has behind it what `C` says. -/
def EachBracket (C : Text → Prop) : Text → Prop
  | [] => True
  | c :: s => (c = '[' → C s) ∧ EachBracket C s

/-- Of what stands behind a bracket, `C` is told by the rest of the line and the character next to
that. -/
structure IsToldByLine (C : Text → Prop) : Prop where
  append {s t : Text} (h : C s) (hhead : t.head? ≠ some '(') : C (s ++ t)
  of_newline {s t : Text} (h : C (s ++ '\n' :: t)) : C s

namespace EachBracket

variable {C : Text → Prop} {s t : Text}

theorem of_notMem (h : '[' ∉ s) : EachBracket C s := by
  induction s with
  | nil => trivial
  | cons c s ih =>
    rw [List.mem_cons, not_or] at h
    exact ⟨fun hc => absurd hc.symm h.1, ih h.2⟩

theorem of_append_right (h : EachBracket C (s ++ t)) : EachBracket C t := by
  induction s with
  | nil => exact h
  | cons c s ih => exact ih h.2

theorem append_of_imp (hC : ∀ {u : Text}, C u → C (u ++ t)) (hs : EachBracket C s)
    (ht : EachBracket C t) : EachBracket C (s ++ t) := by
  induction s with
  | nil => exact ht
  | cons c s ih => exact ⟨fun hc => hC (hs.1 hc), ih hs.2⟩

theorem append_of_notMem (hs : '[' ∉ s) (t : Text) :
    EachBracket C (s ++ t) ↔ EachBracket C t := by
  refine ⟨of_append_right, fun ht => ?_⟩
  induction s with
  | nil => exact ht
  | cons c s ih =>
    rw [List.mem_cons, not_or] at hs
    exact ⟨fun hc => absurd hc.symm hs.1, ih hs.2⟩

variable (hC : IsToldByLine C)

include hC

theorem append (hs : EachBracket C s) (ht : EachBracket C t) (hhead : t.head? ≠ some '(') :
    EachBracket C (s ++ t) :=
  append_of_imp (fun h => hC.append h hhead) hs ht

theorem append_newline_iff :
    EachBracket C (s ++ '\n' :: t) ↔ EachBracket C s ∧ EachBracket C t := by
  refine ⟨fun h => ⟨?_, h.of_append_right.2⟩, fun ⟨hs, ht⟩ =>
    append hC hs ⟨by simp, ht⟩ (by simp)⟩
  induction s with
  | nil => trivial
  | cons c s ih => exact ⟨fun hc => hC.of_newline (h.1 hc), ih h.2⟩

theorem iff_lines : EachBracket C s ↔ ∀ line ∈ s.lines, EachBracket C line := by
  induction s using line_induction with
  | last s hs => rw [lines_of_notMem hs, List.forall_mem_singleton]
  | more line rest hline ih =>
    rw [append_newline_iff hC, lines_append_newline, lines_of_notMem hline,
      List.singleton_append, List.forall_mem_cons, ih]

theorem ofLines {ls : List Text} (h : ∀ l ∈ ls, EachBracket C l) :
    EachBracket C (ofLines ls) := by
  induction ls with
  | nil => trivial
  | cons l ls ih =>
    rw [List.forall_mem_cons] at h
    by_cases hls : ls = []
    · rw [hls, ofLines_singleton]
      exact h.1
    · rw [ofLines_cons hls, append_newline_iff hC]
      exact ⟨h.1, ih h.2⟩

end EachBracket

/-- The first bracket closes, and stands on this line. -/
def ClosesFirst (s : Text) : Prop :=
  ∃ t rest, s = t ++ ']' :: rest ∧ '[' ∉ t ∧ ']' ∉ t ∧ '\n' ∉ t

theorem ClosesFirst.append {s : Text} (h : ClosesFirst s) (t : Text) : ClosesFirst (s ++ t) := by
  obtain ⟨inner, rest, rfl, hinner⟩ := h
  exact ⟨inner, rest ++ t, by simp, hinner⟩

theorem closesFirst_isToldByLine : IsToldByLine ClosesFirst where
  append h _ := h.append _
  of_newline h := by
    obtain ⟨inner, rest, heq, hopen, hclose, hline⟩ := h
    obtain ⟨w, rfl, -⟩ := exists_eq_append_of_newline hline heq
    exact ⟨inner, w, rfl, hopen, hclose, hline⟩

/-- Each opening bracket is closed on its line before another one opens. -/
def IsPaired : Text → Prop := EachBracket ClosesFirst

theorem IsPaired.append {s t : Text} (hs : IsPaired s) (ht : IsPaired t) : IsPaired (s ++ t) :=
  EachBracket.append_of_imp (fun h => h.append t) hs ht

/-- A bracket in the text makes the pair a shorter one. -/
theorem isPaired_bracket {t s : Text} (hopen : '[' ∉ t) (hline : '\n' ∉ t) (hs : IsPaired s) :
    IsPaired ('[' :: (t ++ ']' :: s)) := by
  have hrest : IsPaired (t ++ [']'] ++ s) :=
    (EachBracket.append_of_notMem (by simp [hopen]) s).2 hs
  rw [List.append_assoc] at hrest
  refine ⟨fun _ => ?_, hrest⟩
  by_cases hclose : ']' ∈ t
  · obtain ⟨u, v, rfl, hu⟩ := List.eq_append_cons_of_mem hclose
    rw [List.mem_append, not_or] at hopen hline
    exact ⟨u, v ++ ']' :: s, by simp, hopen.1, hu, hline.1⟩
  · exact ⟨t, s, rfl, hopen, hclose, hline⟩

theorem IsPaired.of_bracket {t s : Text} (ht : ']' ∉ t) (h : IsPaired ('[' :: (t ++ ']' :: s))) :
    '[' ∉ t ∧ IsPaired s := by
  obtain ⟨inner, rest, heq, hopen, hclose, -⟩ := h.1 rfl
  obtain ⟨rfl, rfl⟩ := append_cons_inj ht hclose heq
  exact ⟨hopen, (EachBracket.of_append_right h.2).2⟩

theorem IsPaired.of_append_left {s t : Text} (h : IsPaired (s ++ t)) (ht : ']' ∉ t) :
    IsPaired s := by
  induction s with
  | nil => trivial
  | cons c s ih =>
    refine ⟨fun hc => ?_, ih h.2⟩
    obtain ⟨inner, rest, heq, hinner⟩ := h.1 hc
    obtain ⟨w, rfl⟩ := exists_eq_append_cons_of_notMem_right ht heq
    exact ⟨inner, w, rfl, hinner⟩

end Text

open Text

namespace Link

/-- Behind an opening bracket, the rest of a link, or as much of it as there is up to a parenthesis
that `later` says stands behind. -/
def OpensAfter (later : Prop) (s : Text) : Prop :=
  ∃ label rest, s = label ++ ']' :: '(' :: rest ∧ (label ≠ [] ∧ ']' ∉ label)
    ∧ rest.head? ≠ some ')' ∧ (')' ∈ rest ∨ later)

/-- Somewhere in the text a link opens. -/
def Opens (later : Prop) : Text → Prop
  | [] => False
  | c :: s => c = '[' ∧ OpensAfter later s ∨ Opens later s

variable {later : Prop} {s t : Text}

theorem OpensAfter.opens (h : OpensAfter later s) : Opens later ('[' :: s) := Or.inl ⟨rfl, h⟩

theorem opensAfter_append (ht : ']' ∉ t) (s : Text) :
    OpensAfter later (t ++ ']' :: s)
      ↔ t ≠ [] ∧ ∃ rest, s = '(' :: rest ∧ rest.head? ≠ some ')' ∧ (')' ∈ rest ∨ later) := by
  constructor
  · rintro ⟨label, rest, heq, ⟨hne, hlabel⟩, hrest⟩
    obtain ⟨rfl, rfl⟩ := append_cons_inj ht hlabel heq
    exact ⟨hne, rest, rfl, hrest⟩
  · rintro ⟨hne, rest, rfl, hrest⟩
    exact ⟨t, rest, rfl, ⟨hne, ht⟩, hrest⟩

theorem opensAfter_false_iff :
    OpensAfter False s ↔ ∃ l rest, markdown.read? ('[' :: s) = some (l, rest) := by
  constructor
  · rintro ⟨label, rest, rfl, hlabel, hhead, hmem⟩
    obtain ⟨url, rest, rfl, hurl⟩ := List.eq_append_cons_of_mem (hmem.resolve_right id)
    have hne : url ≠ [] := by
      rintro rfl
      exact hhead rfl
    exact ⟨⟨label, url⟩, rest,
      readMarkdown?_eq_some_iff.2 ⟨(toMarkdown_append ⟨label, url⟩ rest).symm, hlabel, hne, hurl⟩⟩
  · rintro ⟨⟨label, url⟩, rest, hr⟩
    obtain ⟨heq, hlabel, hne, hurl⟩ := readMarkdown?_eq_some_iff.1 hr
    rw [toMarkdown_append] at heq
    refine ⟨label, url ++ ')' :: rest, (List.cons.inj heq).2, hlabel, ?_, .inl (by simp)⟩
    cases url with
    | nil => exact absurd rfl hne
    | cons c url =>
      rw [List.mem_cons, not_or] at hurl
      simpa using Ne.symm hurl.1

/-- A link is found exactly if one opens and is closed. -/
theorem found_ne_nil_iff : (markdown.split s).found ≠ [] ↔ Opens False s := by
  induction s using Pattern.split_induction markdown with
  | nil => simp [Opens]
  | read c s l rest hr ih =>
    obtain ⟨rfl, -⟩ : c = '[' ∧ True := ⟨by simpa using markdown_startsWith hr, trivial⟩
    rw [Pattern.split_of_read? hr]
    exact iff_of_true (by simp) (.inl ⟨rfl, opensAfter_false_iff.2 ⟨l, rest, hr⟩⟩)
  | other c s hr ih =>
    have hnot : ¬ (c = '[' ∧ OpensAfter False s) := by
      rintro ⟨rfl, h⟩
      obtain ⟨l, rest, hsome⟩ := opensAfter_false_iff.1 h
      rw [hr] at hsome
      cases hsome
    rw [Pattern.split_of_none hr, Opens]
    exact ih.trans (or_iff_right hnot).symm

theorem opens_append_of_notMem {u : Text} (hu : '[' ∉ u) (s : Text) :
    Opens later (u ++ s) ↔ Opens later s := by
  induction u with
  | nil => exact Iff.rfl
  | cons c u ih =>
    rw [List.mem_cons, not_or] at hu
    exact (or_iff_right fun h => hu.1 h.1.symm).trans (ih hu.2)

theorem not_opens_of_notMem (h : '[' ∉ s) : ¬ Opens later s := by
  have hnil : Opens later (s ++ []) ↔ Opens later [] := opens_append_of_notMem h []
  rw [List.append_nil] at hnil
  exact hnil.1

theorem Opens.append (h : Opens False s) (t : Text) : Opens False (s ++ t) := by
  induction s with
  | nil => exact h.elim
  | cons c s ih =>
    refine h.imp (fun ⟨hc, hs⟩ => ⟨hc, ?_⟩) ih
    obtain ⟨label, rest, rfl, hlabel, hhead, hmem⟩ := hs
    refine ⟨label, rest ++ t, by simp, hlabel, ?_, hmem.imp_left (List.mem_append_left t)⟩
    cases rest with
    | nil => simp at hmem
    | cons d rest => exact hhead

theorem Opens.of_append (h : Opens False (s ++ t)) (hopen : '[' ∉ t) (hclose : ')' ∉ t) :
    Opens False s := by
  induction s with
  | nil => exact absurd h (not_opens_of_notMem hopen)
  | cons c s ih =>
    refine h.imp (fun ⟨hc, hs⟩ => ⟨hc, ?_⟩) ih
    obtain ⟨label, rest, heq, hlabel, hhead, hmem⟩ := hs
    obtain ⟨url, rest, rfl, hurl⟩ := List.eq_append_cons_of_mem (hmem.resolve_right id)
    have hurl' : s ++ t = (label ++ ']' :: '(' :: url) ++ ')' :: rest := heq.trans (by simp)
    obtain ⟨w, rfl⟩ := exists_eq_append_cons_of_notMem_right hclose hurl'
    refine ⟨label, url ++ ')' :: w, by simp, hlabel, ?_, .inl (by simp)⟩
    cases url with
    | nil => exact absurd rfl hhead
    | cons d url => exact hhead

theorem Opens.append_left (h : Opens later t) (s : Text) : Opens later (s ++ t) := by
  induction s with
  | nil => exact h
  | cons c s ih => exact .inr ih

theorem Opens.of_mem {l : Text} {ls : List Text} (h : Opens False l) (hl : l ∈ ls) :
    Opens False (ofLines ls) := by
  obtain ⟨front, behind, rfl⟩ := List.append_of_mem hl
  have hbehind : Opens False (ofLines (l :: behind)) := by
    by_cases hnil : behind = []
    · rwa [hnil, ofLines_singleton]
    · rw [ofLines_cons hnil]
      exact h.append _
  rw [ofLines_append_of_ne_nil front (by simp)]
  exact hbehind.append_left _

theorem opens_trimRight_iff : Opens False s.trimRight ↔ Opens False s := by
  obtain ⟨t, hs, hblank⟩ := s.exists_eq_trimRight_append
  have hnot : ∀ {c : Char}, isBlank c = false → c ∉ t := fun hc hm =>
    absurd rfl (ne_of_isBlank hc (hblank _ hm))
  constructor
  · intro h
    rw [hs]
    exact h.append t
  · intro h
    rw [hs] at h
    exact h.of_append (hnot (by decide)) (hnot (by decide))

/-- What opens in a stretch of paired brackets needs nothing of the text behind but a parenthesis,
if that does not start with one. -/
theorem opens_append (hs : IsPaired s) (hopen : t.head? ≠ some '(') (hclose : t.head? ≠ some ')') :
    Opens later (s ++ t) ↔ Opens (')' ∈ t ∨ later) s ∨ Opens later t := by
  induction s with
  | nil => simp [Opens]
  | cons c s ih =>
    rw [List.cons_append, Opens, Opens, ih hs.2, or_assoc]
    -- the pair closes in `s`, so only an address can go on in `t`
    refine or_congr_left (and_congr_right fun hc => ?_)
    obtain ⟨label, rest, rfl, -, hlabel, -⟩ := hs.1 hc
    rw [List.append_assoc, List.cons_append, opensAfter_append hlabel, opensAfter_append hlabel]
    refine and_congr_right fun _ => ?_
    cases rest with
    | nil =>
      refine iff_of_false ?_ (by simp)
      rintro ⟨behind, rfl, -⟩
      exact hopen rfl
    | cons d rest =>
      have hhead : (rest ++ t).head? ≠ some ')' ↔ rest.head? ≠ some ')' := by
        cases rest <;> simp [hclose]
      simp only [List.cons_append, List.cons.injEq, and_assoc, exists_eq_left', List.mem_append,
        exists_and_left, hhead, or_assoc]

/-- The one stretch can stand for the other on its lines. -/
structure SameLinks (s t : Text) : Prop where
  left : IsPaired s
  right : IsPaired t
  opens_iff : ∀ later, Opens later s ↔ Opens later t
  mem_iff : ')' ∈ s ↔ ')' ∈ t

namespace SameLinks

variable {u v s' t' : Text}

theorem refl (h : IsPaired s) : SameLinks s s := ⟨h, h, fun _ => Iff.rfl, Iff.rfl⟩

theorem symm (h : SameLinks s t) : SameLinks t s :=
  ⟨h.right, h.left, fun later => (h.opens_iff later).symm, h.mem_iff.symm⟩

theorem trans (h : SameLinks s t) (h' : SameLinks t u) : SameLinks s u :=
  ⟨h.left, h'.right, fun later => (h.opens_iff later).trans (h'.opens_iff later),
    h.mem_iff.trans h'.mem_iff⟩

theorem append_of_notMem (hu : '[' ∉ u ∧ ')' ∉ u) (hv : '[' ∉ v ∧ ')' ∉ v)
    (h : SameLinks s t) : SameLinks (u ++ s) (v ++ t) where
  left := (EachBracket.append_of_notMem hu.1 s).2 h.left
  right := (EachBracket.append_of_notMem hv.1 t).2 h.right
  opens_iff later := by
    rw [opens_append_of_notMem hu.1, opens_append_of_notMem hv.1, h.opens_iff]
  mem_iff := by
    rw [List.mem_append, List.mem_append, or_iff_right hu.2, or_iff_right hv.2, h.mem_iff]

theorem newline (h : SameLinks s t) (h' : SameLinks s' t') :
    SameLinks (s ++ '\n' :: s') (t ++ '\n' :: t') := by
  have hbehind : SameLinks ('\n' :: s') ('\n' :: t') :=
    append_of_notMem (u := ['\n']) (v := ['\n']) (by simp) (by simp) h'
  refine ⟨h.left.append hbehind.left, h.right.append hbehind.right, fun later => ?_, ?_⟩
  · rw [opens_append h.left (by simp) (by simp), opens_append h.right (by simp) (by simp),
      hbehind.mem_iff, h.opens_iff, hbehind.opens_iff]
  · rw [List.mem_append, List.mem_append, h.mem_iff, hbehind.mem_iff]

theorem ofLines {ls ls' : List Text} (h : List.Forall₂ SameLinks ls ls') :
    SameLinks (Text.ofLines ls) (Text.ofLines ls') := by
  induction h with
  | nil => exact refl trivial
  | @cons line line' ls ls' hline hls ih =>
    by_cases hnil : ls = []
    · subst hnil
      cases hls
      simpa using hline
    · have hnil' : ls' ≠ [] := by
        rintro rfl
        cases hls
        exact hnil rfl
      rw [Text.ofLines_cons hnil, Text.ofLines_cons hnil']
      exact hline.newline ih

theorem ofLines_append {ls ls' ms ms' : List Text} (hls : ls ≠ []) (hls' : ls' ≠ [])
    (hms : ms = [] ↔ ms' = []) (h : SameLinks (Text.ofLines ls) (Text.ofLines ls'))
    (h' : SameLinks (Text.ofLines ms) (Text.ofLines ms')) :
    SameLinks (Text.ofLines (ls ++ ms)) (Text.ofLines (ls' ++ ms')) := by
  by_cases hnil : ms = []
  · rwa [hnil, hms.1 hnil, List.append_nil, List.append_nil]
  · rw [Text.ofLines_append hls hnil, Text.ofLines_append hls' (hms.not.1 hnil)]
    exact h.newline h'

theorem append (hs : IsPaired s) (hopen : '[' ∉ t) (hclose : ')' ∉ t)
    (hhead : t.head? ≠ some '(') : SameLinks s (s ++ t) := by
  refine ⟨hs, hs.append (EachBracket.of_notMem hopen), fun later => ?_, ?_⟩
  · have hhead' : t.head? ≠ some ')' := fun h => hclose (List.mem_of_mem_head? h)
    rw [opens_append hs hhead hhead', or_iff_left (not_opens_of_notMem hopen)]
    simp [hclose]
  · rw [List.mem_append, or_iff_left hclose]

theorem trimRight (h : IsPaired s) : SameLinks s s.trimRight := by
  obtain ⟨t, hs, hblank⟩ := s.exists_eq_trimRight_append
  have hnot : ∀ {c : Char}, isBlank c = false → c ∉ t := fun hc hm =>
    absurd rfl (ne_of_isBlank hc (hblank _ hm))
  have hprefix : IsPaired s.trimRight := IsPaired.of_append_left (hs ▸ h) (hnot (by decide))
  have hsame := append hprefix (hnot (by decide)) (hnot (by decide))
    fun hh => hnot (c := '(') (by decide) (List.mem_of_mem_head? hh)
  rw [← hs] at hsame
  exact hsame.symm

theorem trim (h : IsPaired s) : SameLinks s s.trim := by
  have hleft : SameLinks s s.trimLeft := by
    have hblank : ∀ {c : Char}, isBlank c = false → c ∉ s.takeWhile isBlank := fun hc hm =>
      absurd rfl (ne_of_isBlank hc (List.mem_takeWhile_imp hm))
    have hrest : IsPaired s.trimLeft := by
      refine EachBracket.of_append_right (s := s.takeWhile isBlank) ?_
      rwa [trimLeft, List.takeWhile_append_dropWhile]
    have hsame := append_of_notMem (u := s.takeWhile isBlank) (v := [])
      ⟨hblank (by decide), hblank (by decide)⟩ (by simp) (refl hrest)
    rwa [trimLeft, List.takeWhile_append_dropWhile] at hsame
  exact hleft.trans (trimRight hleft.right)

end SameLinks

end Link

end Dialects
