import Dialects.Proofs.BracketPairs

/-!
# Links that no one wrote

A text without brackets gets all its brackets in Scrapbox from bold text. So what can be told of a
text bracket by bracket holds in Scrapbox if it holds of the bold text in every stretch
(`Markdown.eachBracket_toScrapbox`); for one thing, the brackets come in pairs
(`Markdown.isPaired_toScrapbox`). On the way back a line opens the links that it opens in Scrapbox:
the bold rule leaves a pair alone that has a parenthesis behind it, and turns any other into stars
(`InlineRule.opens_bold_iff`). So there is a link in the end exactly if the Scrapbox text has one to
read, in Markdown's form or as an address with a label (`Scrapbox.found_toMarkdown_ne_nil_iff`).
-/

namespace Dialects

open Text Link

theorem Pattern.ReadsBack.mem_replace_iff {α : Type} {p : Pattern α} {read write : α → Text}
    {c : Char} (hp : p.ReadsBack read) (h : ∀ a, c ∈ write a ↔ c ∈ read a) (s : Text) :
    c ∈ p.replace write s ↔ c ∈ s := by
  induction s using Pattern.split_induction p with
  | nil => rw [replace_nil]
  | read d s a rest hr ih =>
    rw [replace_of_read? hr, hp hr, List.mem_append, List.mem_append, h, ih]
  | other d s hr ih => rw [replace_of_none hr, List.mem_cons, List.mem_cons, ih]

namespace InlineRule

theorem mem_bold_iff {c : Char} (hc : c ∉ ['*', '[', ']']) (s : Text) :
    c ∈ toMarkdown .bold s ↔ c ∈ s := by
  refine Bold.scrapbox_readsBack.mem_replace_iff (fun t => ?_) s
  simp only [List.mem_cons, List.not_mem_nil, or_false, not_or] at hc
  simp [Bold.toMarkdown, Bold.toScrapbox, Bold.stars, hc]

theorem head?_bold_iff {c : Char} (hc : c ∉ ['*', '[']) (s : Text) :
    (toMarkdown .bold s).head? = some c ↔ s.head? = some c := by
  simp only [List.mem_cons, List.not_mem_nil, or_false, not_or] at hc
  cases s with
  | nil => simp [toMarkdown]
  | cons d s =>
    rw [toMarkdown]
    rcases hr : Bold.scrapbox.read? (d :: s) with _ | ⟨t, rest⟩
    · rw [Pattern.replace_of_none hr, List.head?_cons, List.head?_cons]
    · rw [Pattern.replace_of_read? hr, Bold.scrapbox_startsWith hr]
      simp [Bold.toMarkdown, Bold.stars, Ne.symm hc.1, Ne.symm hc.2]

theorem bold_bracket {t : Text} (h : '[' ∉ t) (s : Text) :
    toMarkdown .bold (t ++ ']' :: s) = t ++ ']' :: toMarkdown .bold s := by
  simpa using bold_append_of_open_notMem (u := t ++ [']']) (by simp [h]) s

theorem isPaired_bold {s : Text} (hs : IsPaired s) : IsPaired (toMarkdown .bold s) := by
  induction s using Pattern.split_induction Bold.scrapbox with
  | nil =>
    rw [toMarkdown, Pattern.replace_nil]
    trivial
  | read c s t rest hr ih =>
    obtain ⟨heq, -, ht, -⟩ := Bold.readScrapbox?_eq_some_iff.1 hr
    rw [heq] at hs
    obtain ⟨hopen, hrest⟩ := hs.of_bracket ht
    have hstars : '[' ∉ Bold.toMarkdown t := by simp [Bold.toMarkdown, Bold.stars, hopen]
    rw [toMarkdown, Pattern.replace_of_read? hr]
    exact (EachBracket.append_of_notMem hstars _).2 (ih hrest)
  | other c s hr ih =>
    rw [toMarkdown, Pattern.replace_of_none hr]
    refine ⟨fun hc => ?_, ih hs.2⟩
    obtain ⟨t, rest, rfl, hopen, hclosed⟩ := hs.1 hc
    exact ⟨t, _, bold_bracket hopen rest, hopen, hclosed⟩

/-- A bracket that is not read as bold text is left in front of the same parenthesis. -/
theorem opensAfter_bold_iff {later : Prop} {t s : Text} (hopen : '[' ∉ t) (hclose : ']' ∉ t)
    (hr : Bold.scrapbox.read? ('[' :: (t ++ ']' :: s)) = none) :
    OpensAfter later (toMarkdown .bold (t ++ ']' :: s)) ↔ OpensAfter later (t ++ ']' :: s) := by
  rw [bold_bracket hopen, opensAfter_append hclose, opensAfter_append hclose]
  refine and_congr_right fun hne => ?_
  have hparen : s.head? = some '(' := by
    by_contra hhead
    have hread := Bold.readScrapbox?_bracket hclose s
    rw [if_neg (by simp [hne, hhead])] at hread
    exact absurd (hr.symm.trans hread) (by simp)
  obtain ⟨behind, rfl⟩ := List.head?_eq_some_iff.1 hparen
  have hcons : toMarkdown .bold ('(' :: behind) = '(' :: toMarkdown .bold behind :=
    bold_append_of_open_notMem (u := ['(']) (by simp) behind
  have hhead := head?_bold_iff (c := ')') (by simp) behind
  have hmem := mem_bold_iff (c := ')') (by simp) behind
  simp [hcons, hhead, hmem]

theorem opens_bold_iff {later : Prop} {s : Text} (hs : IsPaired s) :
    Opens later (toMarkdown .bold s) ↔ Opens later s := by
  induction s using Pattern.split_induction Bold.scrapbox with
  | nil => rw [toMarkdown, Pattern.replace_nil]
  | read c s t rest hr ih =>
    obtain ⟨heq, -, ht, hhead⟩ := Bold.readScrapbox?_eq_some_iff.1 hr
    rw [heq] at hs
    obtain ⟨hopen, hrest⟩ := hs.of_bracket ht
    have hstars : '[' ∉ Bold.toMarkdown t := by simp [Bold.toMarkdown, Bold.stars, hopen]
    have hnone : ¬ OpensAfter later (t ++ ']' :: rest) := by
      rw [opensAfter_append ht]
      rintro ⟨-, behind, rfl, -⟩
      exact hhead rfl
    have hbehind : Opens later (t ++ [']'] ++ rest) ↔ Opens later rest :=
      opens_append_of_notMem (by simp [hopen]) rest
    rw [List.append_assoc, List.singleton_append] at hbehind
    rw [toMarkdown, Pattern.replace_of_read? hr, opens_append_of_notMem hstars, heq]
    refine (ih hrest).trans ?_
    rw [Opens, hbehind]
    exact (or_iff_right fun h => hnone h.2).symm
  | other c s hr ih =>
    rw [toMarkdown, Pattern.replace_of_none hr, Opens, Opens]
    refine or_congr (and_congr_right fun hc => ?_) (ih hs.2)
    subst hc
    obtain ⟨t, rest, rfl, hopen, hclose, -⟩ := hs.1 rfl
    exact opensAfter_bold_iff hopen hclose hr

theorem sameLinks_bold {s : Text} (hs : IsPaired s) : SameLinks s (toMarkdown .bold s) :=
  ⟨hs, isPaired_bold hs, fun _ => (opens_bold_iff hs).symm, (mem_bold_iff (by simp) s).symm⟩

end InlineRule

namespace Markdown

theorem isPaired_bold {s : Text} (hs : '[' ∉ s) : IsPaired (InlineRule.toScrapbox .bold s) := by
  induction s using Pattern.split_induction Bold.markdown with
  | nil =>
    rw [InlineRule.toScrapbox, Pattern.replace_nil]
    trivial
  | read c s t rest hr ih =>
    have hbracket : Bold.toScrapbox t ++ Bold.markdown.replace Bold.toScrapbox rest
        = '[' :: (t ++ ']' :: Bold.markdown.replace Bold.toScrapbox rest) := by
      simp [Bold.toScrapbox]
    rw [Bold.markdown_readsBack hr, List.mem_append, not_or] at hs
    have ht : '[' ∉ t := fun hm => hs.1 (by simp [Bold.toMarkdown, hm])
    rw [InlineRule.toScrapbox, Pattern.replace_of_read? hr, hbracket]
    exact isPaired_bracket ht (Bold.newline_notMem_of_readMarkdown? hr) (ih hs.2)
  | other c s hr ih =>
    rw [List.mem_cons, not_or] at hs
    rw [InlineRule.toScrapbox, Pattern.replace_of_none hr]
    exact ⟨fun hc => absurd hc.symm hs.1, ih hs.2⟩

theorem open_notMem_block {default : Text} (hdefault : '[' ∉ default) {b : CodeBlock}
    (hb : '[' ∉ b.toMarkdown) : '[' ∉ b.toScrapbox default := by
  simp only [CodeBlock.toMarkdown, List.mem_append, List.mem_cons, not_or] at hb
  obtain ⟨⟨⟨-, hlanguage⟩, -, hbody⟩, -⟩ := hb
  have hheader : '[' ∉ CodeBlock.header := by decide
  intro hm
  obtain ⟨line, hline, hm⟩ := (Text.mem_ofLines (by decide)).1 hm
  rw [CodeBlock.scrapboxLines, List.mem_cons] at hline
  rcases hline with rfl | hline
  · rw [CodeBlock.languageOr] at hm
    split at hm
    · exact (List.mem_append.1 hm).elim hheader hdefault
    · exact (List.mem_append.1 hm).elim hheader hlanguage
  · obtain ⟨l, hl, rfl⟩ := List.mem_map.1 hline
    rcases List.mem_cons.1 hm with hspace | hm
    · exact absurd hspace (by decide)
    · exact notMem_of_mem_lines_of_notMem hl hbody hm

theorem head?_block_ne (default : Text) (b : CodeBlock) (s : Text) :
    (b.toScrapbox default ++ s).head? ≠ some '(' := by
  have hbody : b.body.lines.map (' ' :: ·) ≠ [] := by simpa using b.body.lines_ne_nil
  rw [CodeBlock.toScrapbox, CodeBlock.scrapboxLines, Text.ofLines_cons hbody]
  simp [CodeBlock.header]

section EachBracket

variable {C : Text → Prop}

theorem eachBracket_structureLine_iff (line : Text) :
    EachBracket C (structureLine line) ↔ EachBracket C line := by
  obtain ⟨lead, mark, t, rfl, hline, hmark⟩ := exists_structureLine_eq line
  have hopen := hmark '[' (by simp)
  rw [hline, EachBracket.append_of_notMem hopen.1, EachBracket.append_of_notMem hopen.2]

variable (hC : IsToldByLine C)

include hC

theorem eachBracket_convertProse (afterCode : Bool) {s : Text} (hs : '[' ∉ s)
    (hbold : EachBracket C (InlineRule.toScrapbox .bold s)) :
    EachBracket C (convertProse afterCode s) := by
  have hlink : InlineRule.toScrapbox .link s = s := Link.markdown_startsWith.replace_of_notMem hs
  have hlines := (EachBracket.iff_lines hC).1 hbold
  cases afterCode with
  | false =>
    rw [convertProse_false, InlineRule.allToScrapbox_eq, hlink, structureLines]
    refine EachBracket.ofLines hC fun l hl => ?_
    obtain ⟨line, hline, rfl⟩ := List.mem_map.1 hl
    exact (eachBracket_structureLine_iff line).2 (hlines line hline)
  | true =>
    rw [convertProse_true, InlineRule.allToScrapbox_eq, hlink, structureLaterLines]
    split
    · trivial
    · rename_i line later heq
      rw [heq, List.forall_mem_cons] at hlines
      refine EachBracket.ofLines hC ?_
      rw [List.forall_mem_cons]
      refine ⟨hlines.1, fun l hl => ?_⟩
      obtain ⟨line, hline, rfl⟩ := List.mem_map.1 hl
      exact (eachBracket_structureLine_iff line).2 (hlines.2 line hline)

theorem eachBracket_render {default : Text} (hdefault : '[' ∉ default)
    {found : List (CodeBlock × Text)} (afterCode : Bool) {lead : Text}
    (hs : '[' ∉ Split.join CodeBlock.toMarkdown ⟨lead, found⟩)
    (hbold : ∀ u ∈ Split.stretches ⟨lead, found⟩, '[' ∉ u →
      EachBracket C (InlineRule.toScrapbox .bold u)) :
    EachBracket C (convertProse afterCode lead ++ found.flatMap fun (block, prose) =>
      block.toScrapbox default ++ convertProse true prose) := by
  rw [Split.stretches, List.forall_mem_cons] at hbold
  induction found generalizing afterCode lead with
  | nil =>
    rw [Split.join_nil] at hs
    rw [List.flatMap_nil, List.append_nil]
    exact eachBracket_convertProse hC afterCode hs (hbold.1 hs)
  | cons p found ih =>
    obtain ⟨b, next⟩ := p
    rw [Split.join_cons, List.mem_append, List.mem_append, not_or, not_or] at hs
    obtain ⟨hlead, hblock, hrest⟩ := hs
    rw [List.map_cons, List.forall_mem_cons] at hbold
    rw [List.flatMap_cons, List.append_assoc]
    -- a block has no bracket in it, and does not start with a parenthesis
    refine EachBracket.append hC (eachBracket_convertProse hC afterCode hlead (hbold.1 hlead)) ?_
      (head?_block_ne default b _)
    exact (EachBracket.append_of_notMem (open_notMem_block hdefault hblock) _).2
      (ih true hrest hbold.2)

/-- What holds of each bracket that bold text gets holds of each bracket of the whole text. -/
theorem eachBracket_toScrapbox {default s : Text} (hdefault : '[' ∉ default) (hs : '[' ∉ s)
    (hbold : ∀ u ∈ (CodeBlock.markdown.split s).stretches, '[' ∉ u →
      EachBracket C (InlineRule.toScrapbox .bold u)) :
    EachBracket C (toScrapbox default s).text := by
  rw [← Pattern.join_split CodeBlock.markdown_readsBack s] at hs
  exact eachBracket_render hC hdefault false hs hbold

end EachBracket

theorem isPaired_toScrapbox {default s : Text} (hdefault : '[' ∉ default) (hs : '[' ∉ s) :
    IsPaired (toScrapbox default s).text :=
  eachBracket_toScrapbox closesFirst_isToldByLine hdefault hs fun _ _ => isPaired_bold

end Markdown

namespace Scrapbox

theorem opens_structureLine_iff (line : Text) :
    Opens False (structureLine line) ↔ Opens False line := by
  obtain ⟨lead, mark, t, rfl, hline, hmark⟩ := exists_structureLine_eq line
  have hopen := hmark '[' (by simp)
  rw [hline, opens_append_of_notMem hopen.1, opens_append_of_notMem hopen.2]

theorem sameLinks_structureLine {line : Text} (h : IsPaired line) :
    SameLinks line (structureLine line) := by
  obtain ⟨lead, mark, t, rfl, hline, hmark⟩ := exists_structureLine_eq line
  have hopen := hmark '[' (by simp)
  have hclose := hmark ')' (by simp)
  rw [hline]
  exact .append_of_notMem ⟨hopen.1, hclose.1⟩ ⟨hopen.2, hclose.2⟩
    (.refl (EachBracket.of_append_right h))

/-- A line without a link keeps what opens in it. -/
theorem sameLinks_convertLine {line : Text} (h : IsPaired line)
    (hnone : (Link.scrapbox.split line).found = []) : SameLinks line (convertLine line) := by
  have hlink : InlineRule.toMarkdown .link line = line := Pattern.replace_of_found_eq_nil hnone
  rw [convertLine, InlineRule.allToMarkdown_eq, hlink]
  have hbold := InlineRule.sameLinks_bold h
  exact hbold.trans (sameLinks_structureLine hbold.right)

/-- A link of the line is a link of the converted line. -/
theorem opens_convertLine {line : Text} (h : IsPaired line)
    (hsome : (Link.scrapbox.split line).found ≠ []) : Opens False (convertLine line) := by
  obtain ⟨lead, t, l, rest, rfl, hr, hreplace⟩ := Pattern.exists_of_found_ne_nil hsome
  obtain ⟨c, hc, rfl, haddress, hne, hlabel⟩ := Link.readScrapbox?_eq_some_iff.1 hr
  have hinner := haddress.notMem_append hc hlabel
  have hbracket : '[' :: (l.url ++ c :: (l.label ++ ']' :: rest))
      = '[' :: (l.url ++ c :: l.label ++ ']' :: rest) := by simp
  have hpair : IsPaired ('[' :: (l.url ++ c :: l.label ++ ']' :: rest)) :=
    hbracket ▸ EachBracket.of_append_right h
  have hopen : '[' ∉ l.url := fun hm => (hpair.of_bracket hinner).1 (List.mem_append_left _ hm)
  have hopens : ∀ s : Text, Opens False (l.toMarkdown ++ s) := by
    intro s
    have hafter : OpensAfter False (l.label ++ ']' :: '(' :: (l.url ++ ')' :: s)) :=
      (opensAfter_append hlabel _).2 ⟨hne, _, rfl, haddress.head?_append_ne _, .inl (by simp)⟩
    rw [l.toMarkdown_append]
    exact hafter.opens
  rw [convertLine, opens_structureLine_iff, InlineRule.allToMarkdown_eq, InlineRule.toMarkdown,
    hreplace, InlineRule.bold_append (Bold.not_closesBracket_link hlabel _)
      (by simp [Link.toMarkdown]),
    InlineRule.bold_link hlabel haddress.notMem fun hm => absurd hm hopen]
  exact (hopens _).append_left _

/-- The line with this language in it, if it heads a code block and names none. -/
def nameBlock (default line : Text) : Text :=
  match Text.after? CodeBlock.header line with
  | some name => if name.trim = [] then CodeBlock.header ++ default else line
  | none => line

theorem nameBlock_of_none {line : Text} (h : Text.after? CodeBlock.header line = none)
    (default : Text) : nameBlock default line = line := by
  rw [nameBlock, h]

theorem nameBlock_of_continuesBlock {line : Text} (h : continuesBlock line = true)
    (default : Text) : nameBlock default line = line := by
  refine nameBlock_of_none ?_ default
  cases line with
  | nil => rfl
  | cons c line =>
    simp only [continuesBlock, List.head?_cons, Option.all_some, decide_eq_true_eq] at h
    simp [h, CodeBlock.header, Text.after?]

theorem sameLinks_header {default line name : Text} (hdefault : IsPaired default)
    (hline : IsPaired line) (h : Text.after? CodeBlock.header line = some name) :
    SameLinks (nameBlock default line)
      (CodeBlock.fence ++ CodeBlock.languageOr default name.trim) := by
  have hheader : '[' ∉ CodeBlock.header ∧ ')' ∉ CodeBlock.header := by decide
  have hfence : '[' ∉ CodeBlock.fence ∧ ')' ∉ CodeBlock.fence := by decide
  rw [nameBlock, h]
  dsimp only
  rw [CodeBlock.languageOr]
  split
  · exact .append_of_notMem hheader hfence (.refl hdefault)
  · rw [Text.after?_eq_some_iff.1 h] at hline ⊢
    exact .append_of_notMem hheader hfence (.trim (EachBracket.of_append_right hline))

theorem sameLinks_indent {line : Text} (hline : IsPaired line) (h : continuesBlock line = true) :
    SameLinks line (line.drop 1) := by
  cases line with
  | nil => exact .refl trivial
  | cons c line =>
    simp only [continuesBlock, List.head?_cons, Option.all_some, decide_eq_true_eq] at h
    subst h
    exact .append_of_notMem (u := [' ']) (v := []) (by simp) (by simp) (.refl hline.2)

/-- The lines of a block, freed of their indent and with a fence behind them. -/
theorem sameLinks_code {body : List Text} (h : ∀ line ∈ body, IsPaired line)
    (hbody : ∀ line ∈ body, continuesBlock line = true) :
    SameLinks (Text.ofLines body) (Text.ofLines
      ((if Part.code (body.map (·.drop 1)) = [] then []
        else (Part.code (body.map (·.drop 1))).lines) ++ [CodeBlock.fence])) := by
  have hindent : SameLinks (Text.ofLines body) (Part.code (body.map (·.drop 1))) := by
    have hlines : List.Forall₂ SameLinks body (body.map (·.drop 1)) :=
      List.forall₂_map_right_iff.2 (List.forall₂_same.2 fun line hline =>
        sameLinks_indent (h line hline) (hbody line hline))
    have hofLines := SameLinks.ofLines hlines
    exact hofLines.trans (.trimRight hofLines.right)
  generalize Part.code (body.map (·.drop 1)) = code at hindent ⊢
  by_cases hcode : code = []
  · subst hcode
    exact hindent.trans (.append trivial (by decide) (by decide) (by decide))
  · rw [if_neg hcode, Text.ofLines_append code.lines_ne_nil (by simp), Text.ofLines_lines,
      Text.ofLines_singleton]
    exact hindent.trans (.append hindent.right (by decide) (by decide) (by decide))

theorem sameLinks_block {default line name : Text} {body : List Text} (number : Nat)
    (hdefault : IsPaired default) (hline : IsPaired line)
    (hname : Text.after? CodeBlock.header line = some name) (h : ∀ line ∈ body, IsPaired line)
    (hbody : ∀ line ∈ body, continuesBlock line = true) :
    SameLinks (Text.ofLines (nameBlock default line :: body))
      (Text.ofLines (Part.block number (CodeBlock.languageOr default name.trim)
        (body.map (·.drop 1))).markdownLines) := by
  have hheader := sameLinks_header hdefault hline hname
  rw [Part.markdownLines, List.cons_append]
  by_cases hnil : body = []
  · subst hnil
    have hcode : Part.code [] = [] := rfl
    rw [Text.ofLines_singleton, Text.ofLines_cons (by simp), List.map_nil, if_pos hcode,
      List.nil_append, Text.ofLines_singleton]
    exact hheader.trans (.append hheader.right (by decide) (by decide) (by decide))
  · rw [Text.ofLines_cons hnil, Text.ofLines_cons (by simp)]
    exact hheader.newline (sameLinks_code h hbody)

theorem Part.flatMap_markdownLines_eq_nil_iff {default : Text} {number : Nat} {lines : List Text} :
    (ofLines default number lines).flatMap markdownLines = [] ↔ lines = [] := by
  cases lines with
  | nil => simp
  | cons line rest =>
    refine iff_of_false ?_ (by simp)
    rcases hname : Text.after? CodeBlock.header line with _ | name
    · rw [ofLines_cons_of_none default number rest hname]
      simp [markdownLines]
    · rw [ofLines_cons_of_header default number rest hname]
      simp [markdownLines]

/-- Without a link in a line that stands alone, the Markdown text opens the links that the Scrapbox
text opens, once each block there has its language. -/
theorem sameLinks_parts {default : Text} (hdefault : IsPaired default) (number : Nat)
    {lines : List Text} (h : ∀ line ∈ lines, IsPaired line)
    (hnone : ∀ line, .prose line ∈ Part.ofLines default number lines →
      (Link.scrapbox.split line).found = []) :
    SameLinks (Text.ofLines (lines.map (nameBlock default)))
      (Text.ofLines ((Part.ofLines default number lines).flatMap Part.markdownLines)) := by
  induction number, lines using Part.ofLines.induct with
  | case1 number =>
    rw [Part.ofLines_nil]
    exact .refl trivial
  | case2 number line rest hline ih =>
    rw [List.forall_mem_cons] at h
    rw [Part.ofLines_cons_of_none default number rest hline] at hnone ⊢
    have hrest := ih h.2 fun line hmem => hnone line (List.mem_cons_of_mem _ hmem)
    have hsame := sameLinks_convertLine h.1 (hnone line List.mem_cons_self)
    rw [List.map_cons, nameBlock_of_none hline, List.flatMap_cons]
    have hfirst : [line] ≠ [] := by simp
    refine .ofLines_append hfirst (by simp [Part.markdownLines]) ?_ ?_ hrest
    · rw [Part.flatMap_markdownLines_eq_nil_iff, List.map_eq_nil_iff]
    · simpa [Part.markdownLines] using hsame
  | case3 number line rest name hname ih =>
    rw [List.forall_mem_cons] at h
    rw [Part.ofLines_cons_of_header default number rest hname] at hnone ⊢
    have hrest := ih (fun line hmem => h.2 line ((List.dropWhile_sublist _).subset hmem))
      fun line hmem => hnone line (List.mem_cons_of_mem _ hmem)
    have hbody : ∀ line ∈ rest.takeWhile continuesBlock, continuesBlock line = true :=
      fun line hmem => List.mem_takeWhile_imp hmem
    have hsame := sameLinks_block number hdefault h.1 hname
      (fun line hmem => h.2 line (List.takeWhile_subset _ hmem)) hbody
    have hlines : rest.map (nameBlock default) = rest.takeWhile continuesBlock
        ++ (rest.dropWhile continuesBlock).map (nameBlock default) := by
      have hnamed := List.map_congr_left fun line hmem =>
        nameBlock_of_continuesBlock (hbody line hmem) default
      rw [List.map_id'] at hnamed
      rw [← hnamed, ← List.map_append, List.takeWhile_append_dropWhile]
    rw [List.map_cons, hlines, ← List.cons_append, List.flatMap_cons]
    refine .ofLines_append (by simp) (by simp [Part.markdownLines]) ?_ hsame hrest
    rw [Part.flatMap_markdownLines_eq_nil_iff, List.map_eq_nil_iff]

theorem Part.mem_of_prose_mem_ofLines {default line : Text} {number : Nat} {lines : List Text}
    (h : .prose line ∈ ofLines default number lines) : line ∈ lines := by
  induction number, lines using Part.ofLines.induct with
  | case1 number => simp at h
  | case2 number first rest hfirst ih =>
    rw [ofLines_cons_of_none default number rest hfirst, List.mem_cons] at h
    rcases h with h | h
    · obtain rfl := Part.prose.inj h
      exact List.mem_cons_self
    · exact List.mem_cons_of_mem _ (ih h)
  | case3 number first rest name hname ih =>
    rw [ofLines_cons_of_header default number rest hname, List.mem_cons] at h
    rcases h with h | h
    · cases h
    · exact List.mem_cons_of_mem _ ((List.dropWhile_sublist _).subset (ih h))

/-- A text whose brackets come in pairs has a link in Markdown exactly if it has one of Markdown's
form in Scrapbox, with a language in each block, or one of Scrapbox's form in a line that stands
alone. -/
theorem found_toMarkdown_ne_nil_iff {default s : Text} (hdefault : IsPaired default)
    (hs : IsPaired s) :
    (Link.markdown.split (toMarkdown default s).text).found ≠ []
      ↔ (Link.markdown.split (Text.ofLines (s.lines.map (nameBlock default)))).found ≠ []
        ∨ ∃ line, .prose line ∈ Part.ofLines default 1 s.lines
            ∧ (Link.scrapbox.split line).found ≠ [] := by
  have hlines := (EachBracket.iff_lines closesFirst_isToldByLine).1 hs
  have htext : (toMarkdown default s).text
      = (Text.ofLines ((Part.ofLines default 1 s.lines).flatMap Part.markdownLines)).trimRight := by
    rw [toMarkdown, output_eq_ofParts]
    rfl
  rw [htext, found_ne_nil_iff, found_ne_nil_iff, opens_trimRight_iff]
  by_cases hline : ∃ line, .prose line ∈ Part.ofLines default 1 s.lines
      ∧ (Link.scrapbox.split line).found ≠ []
  · refine iff_of_true ?_ (.inr hline)
    obtain ⟨line, hmem, hsome⟩ := hline
    have hopens := opens_convertLine (hlines line (Part.mem_of_prose_mem_ofLines hmem)) hsome
    exact hopens.of_mem (List.mem_flatMap.2 ⟨_, hmem, by simp [Part.markdownLines]⟩)
  · rw [or_iff_left hline]
    refine ((sameLinks_parts hdefault 1 hlines fun line hmem => ?_).opens_iff False).symm
    by_contra hsome
    exact hline ⟨line, hmem, hsome⟩

end Scrapbox

end Dialects
