/-!
# Texts

A text is a list of code points. Readers take what they recognise off its head: a fixed lead
(`Text.after?`), or the stretch up to a closing character (`Text.upTo?`).
-/

namespace Dialects

/-- A sequence of Unicode code points. -/
abbrev Text := List Char

namespace Text

/-- Of the characters of a text each is tested on its own, not all characters there are. -/
instance decidableForallMem (s : Text) (p : Char → Prop) [DecidablePred p] :
    Decidable (∀ c ∈ s, p c) := s.decidableBAll p

instance decidableForallMemOption (c : Option Char) (p : Char → Prop) [DecidablePred p] :
    Decidable (∀ d ∈ c, p d) := c.decidableForallMem

/-- What follows `lead`, in a text that starts with it. -/
def after? : Text → Text → Option Text
  | [], s => some s
  | _ :: _, [] => none
  | c :: lead, d :: s => if c = d then after? lead s else none

theorem after?_eq_some_iff {rest : Text} :
    ∀ {lead s : Text}, after? lead s = some rest ↔ s = lead ++ rest
  | [], s => by simp [after?]
  | _ :: _, [] => by simp [after?]
  | c :: lead, d :: s => by
    by_cases h : c = d
    · subst h
      simp [after?, @after?_eq_some_iff rest lead s]
    · simp [after?, h, Ne.symm h]

@[simp] theorem after?_append (lead rest : Text) : after? lead (lead ++ rest) = some rest :=
  after?_eq_some_iff.2 rfl

/-- The nonempty stretch before the first `stop`, and what follows that `stop`. -/
def upTo? (stop : Char) (s : Text) : Option (Text × Text) :=
  match s.takeWhile (· ≠ stop), s.dropWhile (· ≠ stop) with
  | c :: inner, _ :: rest => some (c :: inner, rest)
  | _, _ => none

/-- A stretch is nonempty, is free of the character that closes it, and is followed by it. -/
theorem upTo?_eq_some_iff {stop : Char} {s inner rest : Text} :
    upTo? stop s = some (inner, rest) ↔
      s = inner ++ stop :: rest ∧ inner ≠ [] ∧ stop ∉ inner := by
  constructor
  · intro h
    have hs := s.takeWhile_append_dropWhile (p := (· ≠ stop))
    have hin : ∀ c ∈ s.takeWhile (· ≠ stop), c ≠ stop := by
      simpa using List.all_eq_true.1 (List.all_takeWhile (p := (· ≠ stop)) (l := s))
    have hhead : ∀ d t, s.dropWhile (· ≠ stop) = d :: t → d = stop := fun d t hd => by
      have := List.head?_dropWhile_not (· ≠ stop) s
      rw [hd] at this
      simpa using this
    simp only [upTo?] at h
    split at h
    · rename_i c inner' d rest' hc hd
      simp only [Option.some.injEq, Prod.mk.injEq] at h
      obtain ⟨rfl, rfl⟩ := h
      rw [hc] at hin hs
      rw [hd] at hs
      have := hhead d rest' hd
      subst this
      exact ⟨hs.symm, by simp, fun hm => hin _ hm rfl⟩
    · simp at h
  · rintro ⟨rfl, hne, hmem⟩
    have hall : ∀ c ∈ inner, (decide (c ≠ stop)) = true := fun c hc => by
      simp only [decide_eq_true_eq]
      rintro rfl
      exact hmem hc
    have ht : (inner ++ stop :: rest).takeWhile (· ≠ stop) = inner := by
      rw [List.takeWhile_append_of_pos hall]
      simp
    have hd : (inner ++ stop :: rest).dropWhile (· ≠ stop) = stop :: rest := by
      rw [List.dropWhile_append_of_pos hall]
      simp
    simp only [upTo?, ht, hd]
    cases inner with
    | nil => exact absurd rfl hne
    | cons c inner => rfl

theorem length_of_upTo? {stop : Char} {s inner rest : Text}
    (h : upTo? stop s = some (inner, rest)) : rest.length < s.length := by
  obtain ⟨rfl, -, -⟩ := upTo?_eq_some_iff.1 h
  simp only [List.length_append, List.length_cons]
  omega

theorem length_of_after? {lead s rest : Text} (h : after? lead s = some rest) :
    rest.length ≤ s.length := by
  rw [after?_eq_some_iff.1 h]
  simp

end Text

end Dialects
