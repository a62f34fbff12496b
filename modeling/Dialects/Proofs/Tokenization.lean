import Dialects.Proofs.Fences

/-!
# The one way to cut a text at its fenced blocks

Cutting a text at the fenced blocks loses nothing of it, takes each block as short as it can be, and
leaves no stretch in which a block opens, however far that block would go on behind the stretch.
No other way to cut the text does all three (`CodeBlock.split_eq_iff`): up to the first block both
ways pass over the same positions, there both read the same block, and what is behind it is a
shorter text.
-/

namespace Dialects

theorem Pattern.join_split {α : Type} {p : Pattern α} {write : α → Text} (hp : p.ReadsBack write)
    (s : Text) : (p.split s).join write = s := by
  induction s using Pattern.split_induction p with
  | nil =>
    rw [Pattern.split_nil]
    rfl
  | read c s a rest hr ih =>
    have hjoin : (p.split (c :: s)).join write = write a ++ (p.split rest).join write := by
      rw [Pattern.split_of_read? hr]
      simp only [Split.join, List.flatMap_cons, List.nil_append, List.append_assoc]
    rw [hjoin, ih, hp hr]
  | other c s hr ih =>
    rw [Pattern.split_of_none hr]
    exact congrArg (c :: ·) ih

namespace CodeBlock

theorem join_append (lead : Text) (front : List (CodeBlock × Text)) (b : CodeBlock) (next : Text)
    (found : List (CodeBlock × Text)) :
    Split.join toMarkdown ⟨lead, front ++ (b, next) :: found⟩
      = Split.join toMarkdown ⟨lead, front⟩
        ++ (b.toMarkdown ++ Split.join toMarkdown ⟨next, found⟩) := by
  simp only [Split.join, List.flatMap_append, List.flatMap_cons, List.append_assoc]

/-- A body needs one character in front of the fence that closes it. -/
theorem readBody?_eq_none_iff {s : Text} : readBody? s = none ↔ ¬ close <:+: s.tail := by
  induction s with
  | nil => simp [readBody?, close]
  | cons c s ih =>
    have hclose : Text.after? close s = none ↔ ¬ close <+: s := by
      rw [Option.eq_none_iff_forall_ne_some]
      constructor
      · rintro h ⟨rest, hrest⟩
        exact h rest (Text.after?_eq_some_iff.2 hrest.symm)
      · intro h rest hrest
        exact h ⟨rest, (Text.after?_eq_some_iff.1 hrest).symm⟩
    have hinfix : close <:+: s ↔ close <+: s ∨ close <:+: s.tail := by
      cases s with
      | nil => simp [close]
      | cons d s => rw [List.infix_cons_iff, List.tail_cons]
    rw [List.tail_cons, hinfix, not_or, ← hclose, ← ih]
    simp only [readBody?]
    split
    · rename_i heq
      simp [heq]
    · rename_i heq
      rw [Option.map_eq_none_iff]
      simp [heq]

/-- A block stands at the head of the text, up to any of the fences that could close it. -/
def Opens (s : Text) : Prop :=
  ∃ b : CodeBlock, (∀ c ∈ b.language, isWord c = true) ∧ b.body ≠ [] ∧ b.toMarkdown <+: s

theorem Opens.append {s : Text} (h : Opens s) (t : Text) : Opens (s ++ t) := by
  obtain ⟨b, hword, hne, hb⟩ := h
  exact ⟨b, hword, hne, hb.trans (List.prefix_append s t)⟩

/-- Reading fails only where no block opens: of several bodies it takes the shortest. -/
theorem readMarkdown?_eq_none_iff {s : Text} : readMarkdown? s = none ↔ ¬ Opens s := by
  constructor
  · rintro hnone ⟨⟨language, body⟩, hword, hne, rest, rfl⟩
    have hbody : readBody? (body ++ close ++ rest) ≠ none := by
      intro h
      obtain ⟨c, body, rfl⟩ := List.exists_cons_of_ne_nil hne
      exact readBody?_eq_none_iff.1 h ⟨body, rest, rfl⟩
    obtain ⟨⟨body', rest'⟩, hread⟩ := Option.ne_none_iff_exists'.1 hbody
    obtain ⟨heq, hne', hno⟩ := readBody?_eq_some hread
    have hsome : readMarkdown? (toMarkdown ⟨language, body⟩ ++ rest)
        = some (⟨language, body'⟩, rest') := by
      refine readMarkdown?_eq_some_iff.2 ⟨⟨hword, hne', hno⟩, ?_⟩
      rw [toMarkdown_append, toMarkdown_append, heq]
    rw [hsome] at hnone
    cases hnone
  · intro h
    rcases hr : readMarkdown? s with _ | ⟨b, rest⟩
    · rfl
    · obtain ⟨hb, hs⟩ := readMarkdown?_eq_some_iff.1 hr
      exact absurd ⟨b, hb.isWord, hb.body_ne_nil, rest, hs.symm⟩ h

/-- No block opens inside the stretch, as the text goes on from there. -/
def NoneOpensIn (stretch : Text) (found : List (CodeBlock × Text)) : Prop :=
  ∀ t, t ≠ [] → t <:+ stretch → ¬ Opens (Split.join toMarkdown ⟨t, found⟩)

def NoneOpens : Text → List (CodeBlock × Text) → Prop
  | stretch, [] => NoneOpensIn stretch []
  | stretch, (b, next) :: found => NoneOpensIn stretch ((b, next) :: found) ∧ NoneOpens next found

theorem NoneOpens.head {stretch : Text} :
    ∀ {found : List (CodeBlock × Text)}, NoneOpens stretch found → NoneOpensIn stretch found
  | [], h => h
  | _ :: _, h => h.1

theorem noneOpensIn_nil (found : List (CodeBlock × Text)) : NoneOpensIn [] found :=
  fun _ hne ht => absurd (List.suffix_nil.1 ht) hne

theorem noneOpensIn_cons {c : Char} {stretch : Text} {found : List (CodeBlock × Text)} :
    NoneOpensIn (c :: stretch) found
      ↔ ¬ Opens (Split.join toMarkdown ⟨c :: stretch, found⟩) ∧ NoneOpensIn stretch found := by
  constructor
  · intro h
    exact ⟨h _ (by simp) (List.suffix_refl _),
      fun t hne ht => h t hne (ht.trans (List.suffix_cons c stretch))⟩
  · rintro ⟨hhead, htail⟩ t hne ht
    rcases List.suffix_cons_iff.1 ht with rfl | ht
    · exact hhead
    · exact htail t hne ht

theorem noneOpens_cons {c : Char} {stretch : Text} :
    ∀ {found : List (CodeBlock × Text)}, NoneOpens (c :: stretch) found
      ↔ ¬ Opens (Split.join toMarkdown ⟨c :: stretch, found⟩) ∧ NoneOpens stretch found
  | [] => noneOpensIn_cons
  | _ :: _ => by
    rw [NoneOpens, noneOpensIn_cons, and_assoc]
    rfl

/-- A way to cut the text: nothing is lost, each block is as short as it can be, and none is
missed. -/
structure IsTokenization (s : Text) (t : Split CodeBlock) : Prop where
  join_eq : t.join toMarkdown = s
  isFenceable : ∀ p ∈ t.found, p.1.IsFenceable
  noneOpens : NoneOpens t.lead t.found

theorem isTokenization_split (s : Text) : IsTokenization s (markdown.split s) := by
  refine ⟨Pattern.join_split markdown_readsBack s, ?_, ?_⟩
  · induction s using Pattern.split_induction markdown with
    | nil => simp [Pattern.split_nil]
    | read c s b rest hr ih =>
      rw [Pattern.split_of_read? hr]
      intro p hp
      rcases List.mem_cons.1 hp with rfl | hp
      · exact (readMarkdown?_eq_some_iff.1 hr).1
      · exact ih p hp
    | other c s hr ih =>
      rw [Pattern.split_of_none hr]
      exact ih
  · induction s using Pattern.split_induction markdown with
    | nil =>
      rw [Pattern.split_nil]
      exact noneOpensIn_nil []
    | read c s b rest hr ih =>
      rw [Pattern.split_of_read? hr]
      exact ⟨noneOpensIn_nil _, ih⟩
    | other c s hr ih =>
      rw [Pattern.split_of_none hr]
      refine noneOpens_cons.2 ⟨?_, ih⟩
      have hjoin : Split.join toMarkdown ⟨c :: (markdown.split s).lead, (markdown.split s).found⟩
          = c :: s := congrArg (c :: ·) (Pattern.join_split markdown_readsBack s)
      rw [hjoin]
      exact readMarkdown?_eq_none_iff.1 hr

theorem split_join_of_noneOpensIn {stretch : Text} {found : List (CodeBlock × Text)}
    (h : NoneOpensIn stretch found) :
    markdown.split (Split.join toMarkdown ⟨stretch, found⟩)
      = ⟨stretch ++ (markdown.split (Split.join toMarkdown ⟨[], found⟩)).lead,
          (markdown.split (Split.join toMarkdown ⟨[], found⟩)).found⟩ := by
  have hpass : ∀ t, t ≠ [] → t <:+ stretch →
      markdown.read? (t ++ Split.join toMarkdown ⟨[], found⟩) = none :=
    fun t hne ht => readMarkdown?_eq_none_iff.2 (h t hne ht)
  exact Pattern.split_append hpass

theorem split_join : ∀ {found : List (CodeBlock × Text)} {lead : Text},
    (∀ p ∈ found, p.1.IsFenceable) → NoneOpens lead found →
      markdown.split (Split.join toMarkdown ⟨lead, found⟩) = ⟨lead, found⟩
  | [], lead, _, hnone => by
    rw [split_join_of_noneOpensIn hnone.head]
    have hempty : Split.join toMarkdown ⟨[], []⟩ = [] := rfl
    rw [hempty, Pattern.split_nil, List.append_nil]
  | (b, next) :: found, lead, hb, hnone => by
    have hread : markdown.read? (b.toMarkdown ++ Split.join toMarkdown ⟨next, found⟩)
        = some (b, Split.join toMarkdown ⟨next, found⟩) :=
      readMarkdown?_eq_some_iff.2 ⟨hb _ List.mem_cons_self, rfl⟩
    have hjoin : Split.join toMarkdown ⟨[], (b, next) :: found⟩
        = b.toMarkdown ++ Split.join toMarkdown ⟨next, found⟩ := join_append [] [] b next found
    rw [split_join_of_noneOpensIn hnone.head, hjoin, Pattern.split_of_read? hread,
      split_join (fun p hp => hb p (List.mem_cons_of_mem _ hp)) hnone.2, List.append_nil]

/-- Cutting at the blocks is the only way to cut a text that loses nothing and misses none. -/
theorem split_eq_iff {s : Text} {t : Split CodeBlock} :
    markdown.split s = t ↔ IsTokenization s t := by
  constructor
  · rintro rfl
    exact isTokenization_split s
  · rintro ⟨rfl, hb, hnone⟩
    exact split_join hb hnone

theorem NoneOpens.mem_stretches {stretch : Text} : ∀ {found : List (CodeBlock × Text)}
    {lead : Text}, NoneOpens lead found → stretch ∈ Split.stretches ⟨lead, found⟩ →
      NoneOpensIn stretch []
  | found, lead, hnone, hmem => by
    have halone : NoneOpensIn lead [] := by
      -- a block of the stretch alone would be one of the stretch with the text behind it
      intro t hne ht hopen
      refine hnone.head t hne ht ?_
      have h := hopen.append (found.flatMap fun (b, next) => b.toMarkdown ++ next)
      simpa only [Split.join, List.flatMap_nil, List.append_nil] using h
    rcases List.mem_cons.1 hmem with rfl | hmem
    · exact halone
    · cases found with
      | nil => cases hmem
      | cons p found => exact NoneOpens.mem_stretches hnone.2 hmem

theorem split_of_mem_stretches {s stretch : Text}
    (h : stretch ∈ (markdown.split s).stretches) : markdown.split stretch = ⟨stretch, []⟩ := by
  have hnone := (isTokenization_split s).noneOpens.mem_stretches h
  have hsplit := @split_join [] stretch (by simp) hnone
  rwa [Split.join, List.flatMap_nil, List.append_nil] at hsplit

/-- The split as one list of texts: a stretch, and three texts for each block, its language, its
body and the stretch behind it. -/
def parts (t : Split CodeBlock) : List Text :=
  t.lead :: t.found.flatMap fun (b, stretch) => [b.language, b.body, stretch]

/-- Every third of the texts, from the first on. -/
def everyThird : List Text → List Text
  | s :: _ :: _ :: rest => s :: everyThird rest
  | s :: _ => [s]
  | [] => []

theorem everyThird_parts : ∀ (found : List (CodeBlock × Text)) (lead : Text),
    everyThird (parts ⟨lead, found⟩) = Split.stretches ⟨lead, found⟩
      ∧ everyThird ((parts ⟨lead, found⟩).drop 1) = found.map (·.1.language)
      ∧ everyThird ((parts ⟨lead, found⟩).drop 2) = found.map (·.1.body)
  | [], _ => ⟨rfl, rfl, rfl⟩
  | (b, next) :: found, lead => by
    obtain ⟨hstretches, hlanguages, hbodies⟩ := everyThird_parts found next
    refine ⟨congrArg (lead :: ·) hstretches, congrArg (b.language :: ·) hlanguages, ?_⟩
    cases found with
    | nil => rfl
    | cons p found => exact congrArg (b.body :: ·) hbodies

/-- Cutting at the fenced blocks is the one way to cut a text that loses nothing, takes shortest
bodies and misses no block. Every block has its language and its body in the list of all parts, so
the two can be paired, and no stretch holds a block when it is cut on its own. -/
theorem isTokenization_iff_eq_split (s : Text) :
    (∀ t, IsTokenization s t ↔ t = markdown.split s)
      ∧ everyThird (parts (markdown.split s)) = (markdown.split s).stretches
      ∧ (everyThird ((parts (markdown.split s)).drop 1)).length
          = (everyThird ((parts (markdown.split s)).drop 2)).length
      ∧ List.zipWith CodeBlock.mk (everyThird ((parts (markdown.split s)).drop 1))
            (everyThird ((parts (markdown.split s)).drop 2))
          = (markdown.split s).found.map (·.1)
      ∧ ∀ stretch ∈ (markdown.split s).stretches, markdown.split stretch = ⟨stretch, []⟩ := by
  obtain ⟨hstretches, hlanguages, hbodies⟩ :=
    everyThird_parts (markdown.split s).found (markdown.split s).lead
  refine ⟨fun t => split_eq_iff.symm.trans eq_comm, hstretches, ?_, ?_,
    fun stretch => split_of_mem_stretches⟩
  · rw [hlanguages, hbodies, List.length_map, List.length_map]
  · rw [hlanguages, hbodies, List.zipWith_map_left, List.zipWith_map_right, List.zipWith_self]

end CodeBlock

end Dialects
