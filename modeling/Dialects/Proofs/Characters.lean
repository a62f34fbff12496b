import Dialects.Conversion
import Dialects.Proofs.FenceCount
import Dialects.Proofs.Parts
import Dialects.Proofs.Tokenization

/-!
# The characters of a converted text

A conversion moves the characters of its text and adds marks. So what holds of each character of
the text, of the default language and of the marks, holds of each character of the result
(`Direction.forall_mem_convert`). Rewriting a pattern is where characters could be lost track of: an
occurrence is read from its own characters, and is written with these and marks.
-/

namespace Dialects

/-- The characters that a conversion writes of its own. -/
def Direction.marks : Direction → List Char
  | .markdownToScrapbox => ['[', ']', ' ', '\u2b1b', '\ufe0f', '#', 'c', 'o', 'd', 'e', ':', '\n']
  | .scrapboxToMarkdown => ['[', ']', '(', ')', '*', '#', '-', ' ', '\x60', '\n']

variable {P : Char → Prop}

namespace Text

theorem forall_mem_ofLines {ls : List Text} (hP : P '\n') (h : ∀ l ∈ ls, ∀ c ∈ l, P c) :
    ∀ c ∈ ofLines ls, P c := by
  intro c hc
  by_cases hnewline : c = '\n'
  · exact hnewline ▸ hP
  · obtain ⟨l, hl, hcl⟩ := (mem_ofLines hnewline).1 hc
    exact h l hl c hcl

theorem forall_mem_of_mem_lines {s l : Text} (h : ∀ c ∈ s, P c) (hl : l ∈ s.lines) :
    ∀ c ∈ l, P c := by
  intro c hc
  have hnewline : c ≠ '\n' := by
    rintro rfl
    exact notMem_of_mem_lines hl hc
  have hmem : c ∈ ofLines s.lines := (mem_ofLines hnewline).2 ⟨l, hl, hc⟩
  rw [ofLines_lines] at hmem
  exact h c hmem

theorem notMem_of_mem_lines_of_notMem {s line : Text} {c : Char} (hline : line ∈ s.lines)
    (h : c ∉ s) : c ∉ line := by
  rw [← List.forall_mem_ne'] at h ⊢
  exact forall_mem_of_mem_lines h hline

theorem trim_subset (s : Text) : s.trim ⊆ s :=
  List.Subset.trans (Text.trimRight_prefix _).subset (List.dropWhile_sublist _).subset

end Text

namespace Pattern

variable {α : Type} {p : Pattern α} {write : α → Text}

theorem forall_mem_replace
    (h : ∀ {s rest : Text} {a : α}, p.read? s = some (a, rest) → (∀ c ∈ s, P c) →
      (∀ c ∈ write a, P c) ∧ ∀ c ∈ rest, P c) {s : Text} (hs : ∀ c ∈ s, P c) :
    ∀ c ∈ p.replace write s, P c := by
  induction s using Pattern.split_induction p with
  | nil =>
    rw [replace_nil]
    exact hs
  | read c s a rest hr ih =>
    obtain ⟨hwrite, hrest⟩ := h hr hs
    rw [replace_of_read? hr, List.forall_mem_append]
    exact ⟨hwrite, ih hrest⟩
  | other c s hr ih =>
    rw [List.forall_mem_cons] at hs
    rw [replace_of_none hr, List.forall_mem_cons]
    exact ⟨hs.1, ih hs.2⟩

theorem ReadsBack.forall_mem_replace {read : α → Text} (hp : p.ReadsBack read)
    (h : ∀ a, (∀ c ∈ read a, P c) → ∀ c ∈ write a, P c) {s : Text} (hs : ∀ c ∈ s, P c) :
    ∀ c ∈ p.replace write s, P c := by
  refine Pattern.forall_mem_replace (fun {s rest a} hr hs => ?_) hs
  rw [hp hr, List.forall_mem_append] at hs
  exact ⟨h a hs.1, hs.2⟩

end Pattern

namespace Markdown

variable (hP : ∀ c ∈ Direction.marks .markdownToScrapbox, P c)
include hP

theorem forall_mem_allToScrapbox {s : Text} (hs : ∀ c ∈ s, P c) :
    ∀ c ∈ InlineRule.allToScrapbox s, P c := by
  simp only [Direction.marks, List.forall_mem_cons] at hP
  obtain ⟨hopen, hclose, hspace, -⟩ := hP
  refine Bold.markdown_readsBack.forall_mem_replace (fun t ht => ?_)
    (Link.markdown_readsBack.forall_mem_replace (fun l hl => ?_) hs)
  · simp only [Bold.toMarkdown, Bold.toScrapbox, List.forall_mem_append, List.forall_mem_cons]
      at ht ⊢
    exact ⟨⟨hopen, ht.1.2⟩, hclose, List.forall_mem_nil P⟩
  · simp only [Link.toMarkdown, Link.toScrapbox, List.forall_mem_append, List.forall_mem_cons]
      at hl ⊢
    exact ⟨⟨⟨⟨hopen, hl.1.2⟩, hspace, List.forall_mem_nil P⟩, hl.1.1.1.2⟩, hclose,
      List.forall_mem_nil P⟩

theorem forall_mem_structureLine {line : Text} (h : ∀ c ∈ line, P c) :
    ∀ c ∈ structureLine line, P c := by
  rcases structureLine_cases line with ⟨hd, t, rfl⟩ | ⟨lead, level, t, hlead, rfl⟩ | ⟨hh, hi⟩
  · rw [structureLine_heading]
    rw [List.forall_mem_append] at h ⊢
    refine ⟨fun c hc => hP c ?_, h.2⟩
    revert c
    cases hd <;> decide
  · rw [structureLine_item hlead]
    rw [List.forall_mem_append] at h ⊢
    refine ⟨fun c hc => hP c ?_, h.2⟩
    rw [List.eq_of_mem_replicate hc]
    decide
  · rwa [structureLine_plain hh hi]

theorem forall_mem_convertProse (afterCode : Bool) {s : Text} (hs : ∀ c ∈ s, P c) :
    ∀ c ∈ convertProse afterCode s, P c := by
  have hnewline : P '\n' := hP '\n' (by decide)
  have hlines : ∀ l ∈ (InlineRule.allToScrapbox s).lines, ∀ c ∈ l, P c := fun l =>
    Text.forall_mem_of_mem_lines (forall_mem_allToScrapbox hP hs)
  cases afterCode with
  | false =>
    rw [convertProse_false, structureLines]
    refine Text.forall_mem_ofLines hnewline fun l hl => ?_
    obtain ⟨line, hline, rfl⟩ := List.mem_map.1 hl
    exact forall_mem_structureLine hP (hlines line hline)
  | true =>
    rw [convertProse_true, structureLaterLines]
    split
    · exact List.forall_mem_nil P
    · rename_i line later heq
      rw [heq, List.forall_mem_cons] at hlines
      refine Text.forall_mem_ofLines hnewline ?_
      rw [List.forall_mem_cons]
      refine ⟨hlines.1, fun l hl => ?_⟩
      obtain ⟨line, hline, rfl⟩ := List.mem_map.1 hl
      exact forall_mem_structureLine hP (hlines.2 line hline)

theorem forall_mem_block {default : Text} (hdefault : ∀ c ∈ default, P c) {b : CodeBlock}
    (hlanguage : ∀ c ∈ b.language, P c) (hbody : ∀ c ∈ b.body, P c) :
    ∀ c ∈ b.toScrapbox default, P c := by
  refine Text.forall_mem_ofLines (hP '\n' (by decide)) ?_
  rw [CodeBlock.scrapboxLines, List.forall_mem_cons, List.forall_mem_append]
  refine ⟨⟨fun c hc => hP c ?_, ?_⟩, fun l hl => ?_⟩
  · revert c
    decide
  · unfold CodeBlock.languageOr
    split
    · exact hdefault
    · exact hlanguage
  · obtain ⟨line, hline, rfl⟩ := List.mem_map.1 hl
    rw [List.forall_mem_cons]
    exact ⟨hP ' ' (by decide), Text.forall_mem_of_mem_lines hbody hline⟩

theorem forall_mem_toScrapbox {default s : Text} (hdefault : ∀ c ∈ default, P c)
    (hs : ∀ c ∈ s, P c) : ∀ c ∈ (toScrapbox default s).text, P c := by
  rw [← Pattern.join_split CodeBlock.markdown_readsBack s, Split.join, List.forall_mem_append] at hs
  simp only [toScrapbox, List.forall_mem_append]
  refine ⟨forall_mem_convertProse hP false hs.1, fun c hc => ?_⟩
  obtain ⟨⟨b, prose⟩, hfound, hc⟩ := List.mem_flatMap.1 hc
  have hblock : ∀ c ∈ b.toMarkdown ++ prose, P c := fun c hc =>
    hs.2 c (List.mem_flatMap.2 ⟨_, hfound, hc⟩)
  simp only [CodeBlock.toMarkdown, List.forall_mem_append, List.forall_mem_cons] at hblock
  rcases List.mem_append.1 hc with hc | hc
  · exact forall_mem_block hP hdefault hblock.1.1.1.2 hblock.1.1.2.2 c hc
  · exact forall_mem_convertProse hP true hblock.2 c hc

end Markdown

namespace Scrapbox

variable (hP : ∀ c ∈ Direction.marks .scrapboxToMarkdown, P c)
include hP

theorem forall_mem_allToMarkdown {s : Text} (hs : ∀ c ∈ s, P c) :
    ∀ c ∈ InlineRule.allToMarkdown s, P c := by
  simp only [Direction.marks, List.forall_mem_cons] at hP
  obtain ⟨hopen, hclose, hleft, hright, hstar, -⟩ := hP
  refine Bold.scrapbox_readsBack.forall_mem_replace (fun t ht => ?_)
    (Pattern.forall_mem_replace (fun {s rest l} hr hs => ?_) hs)
  · simp only [Bold.toMarkdown, Bold.toScrapbox, Bold.stars, List.forall_mem_append,
      List.forall_mem_cons] at ht ⊢
    exact ⟨⟨⟨hstar, hstar, List.forall_mem_nil P⟩, ht.1.2⟩, hstar, hstar, List.forall_mem_nil P⟩
  · obtain ⟨blank, -, heq⟩ := Link.exists_blank_of_readScrapbox? hr
    simp only [heq, Link.toMarkdown, List.forall_mem_append, List.forall_mem_cons] at hs ⊢
    obtain ⟨⟨⟨⟨-, hurl⟩, -⟩, hlabel, -⟩, hrest⟩ := hs
    exact ⟨⟨⟨⟨⟨hopen, hlabel⟩, hclose, hleft, List.forall_mem_nil P⟩, hurl⟩, hright,
      List.forall_mem_nil P⟩, hrest⟩

theorem forall_mem_structureLine {line : Text} (h : ∀ c ∈ line, P c) :
    ∀ c ∈ structureLine line, P c := by
  rcases structureLine_cases line with ⟨hd, t, rfl⟩ | ⟨level, t, hpos, ht, rfl⟩ | ⟨hh, hi⟩
  · rw [structureLine_heading]
    rw [List.forall_mem_append] at h ⊢
    refine ⟨fun c hc => hP c ?_, h.2⟩
    revert c
    cases hd <;> decide
  · rw [structureLine_item hpos ht]
    rw [List.forall_mem_append] at h ⊢
    refine ⟨fun c hc => hP c ?_, h.2⟩
    rcases ListItem.eq_of_mem_markdownLead hc with rfl | rfl <;> decide
  · rwa [structureLine_plain hh hi]

theorem forall_mem_convertLine {line : Text} (h : ∀ c ∈ line, P c) :
    ∀ c ∈ convertLine line, P c :=
  forall_mem_structureLine hP (forall_mem_allToMarkdown hP h)

theorem Part.forall_mem_block (number : Nat) {language : Text} {body : List Text}
    (hlanguage : ∀ c ∈ language, P c) (hbody : ∀ line ∈ body, ∀ c ∈ line, P c) :
    ∀ l ∈ (Part.block number language body).markdownLines, ∀ c ∈ l, P c := by
  have hfence : ∀ c ∈ CodeBlock.fence, P c := fun c hc => hP c (by revert c; decide)
  have hcode : ∀ c ∈ Part.code body, P c := fun c hc =>
    Text.forall_mem_ofLines (hP '\n' (by decide)) hbody c ((Text.trimRight_prefix _).subset hc)
  simp only [Part.markdownLines, List.forall_mem_append, List.forall_mem_cons]
  refine ⟨⟨⟨hfence, hlanguage⟩, fun l hl => ?_⟩, hfence, List.forall_mem_nil _⟩
  split at hl
  · cases hl
  · exact Text.forall_mem_of_mem_lines hcode hl

theorem Part.forall_mem_markdownLines {default : Text} (hdefault : ∀ c ∈ default, P c)
    (number : Nat) {lines : List Text} (h : ∀ line ∈ lines, ∀ c ∈ line, P c) :
    ∀ part ∈ Part.ofLines default number lines, ∀ l ∈ part.markdownLines, ∀ c ∈ l, P c := by
  induction number, lines using Part.ofLines.induct with
  | case1 number => simp
  | case2 number line rest hnone ih =>
    rw [List.forall_mem_cons] at h
    rw [Part.ofLines_cons_of_none default number rest hnone, List.forall_mem_cons]
    refine ⟨?_, ih h.2⟩
    simp only [Part.markdownLines, List.forall_mem_singleton]
    exact forall_mem_convertLine hP h.1
  | case3 number line rest name hname ih =>
    rw [List.forall_mem_cons, Text.after?_eq_some_iff.1 hname, List.forall_mem_append] at h
    rw [Part.ofLines_cons_of_header default number rest hname, List.forall_mem_cons]
    refine ⟨Part.forall_mem_block hP number ?_ fun code hcode c hc => ?_,
      ih fun line hline => h.2 line ((List.dropWhile_sublist _).subset hline)⟩
    · unfold CodeBlock.languageOr
      split
      · exact hdefault
      · exact fun c hc => h.1.2 c (Text.trim_subset name hc)
    · obtain ⟨line, hline, rfl⟩ := List.mem_map.1 hcode
      exact h.2 line (List.takeWhile_subset _ hline) c (List.mem_of_mem_drop hc)

theorem forall_mem_toMarkdown {default s : Text} (hdefault : ∀ c ∈ default, P c)
    (hs : ∀ c ∈ s, P c) : ∀ c ∈ (toMarkdown default s).text, P c := by
  have hlines : ∀ l ∈ (output default s).lines, ∀ c ∈ l, P c := by
    intro l hl
    rw [output_eq_ofParts] at hl
    obtain ⟨part, hpart, hl⟩ := List.mem_flatMap.1 hl
    exact Part.forall_mem_markdownLines hP hdefault 1
      (fun line hline => Text.forall_mem_of_mem_lines hs hline) part hpart l hl
  intro c hc
  exact Text.forall_mem_ofLines (hP '\n' (by decide)) hlines c
    ((Text.trimRight_prefix _).subset hc)

end Scrapbox

namespace Direction

/-- What holds of the characters of a text and of a language, and of the marks of a conversion,
holds of the characters of the converted text. -/
theorem forall_mem_convert {d : Direction} (hP : ∀ c ∈ d.marks, P c) {default s : Text}
    (hdefault : ∀ c ∈ default, P c) (hs : ∀ c ∈ s, P c) :
    ∀ c ∈ (d.convert default s).text, P c := by
  cases d with
  | markdownToScrapbox => exact Markdown.forall_mem_toScrapbox hP hdefault hs
  | scrapboxToMarkdown => exact Scrapbox.forall_mem_toMarkdown hP hdefault hs

/-- A conversion has no carriage return to bring into a text. -/
theorem return_notMem_convert (d : Direction) {default s : Text} (hdefault : '\r' ∉ default)
    (hs : '\r' ∉ s) : '\r' ∉ (d.convert default s).text := by
  have hmarks : ∀ c ∈ d.marks, c ≠ '\r' := by
    cases d <;> decide
  intro hmem
  exact forall_mem_convert hmarks (List.forall_mem_ne'.2 hdefault) (List.forall_mem_ne'.2 hs)
    '\r' hmem rfl

end Direction

end Dialects
