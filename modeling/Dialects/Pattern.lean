import Dialects.Text.Basic

/-!
# Patterns

A pattern reads one occurrence of a notation off the head of a text. Cutting a text at a pattern
(`Pattern.split`) tries each position from left to right and goes on behind an occurrence, so
occurrences do not overlap; replacing (`Pattern.replace`) puts other texts in their place.
-/

namespace Dialects

/-- A notation, by its reader: what stands at the head of a text, and the rest. -/
structure Pattern (α : Type) where
  read? : Text → Option (α × Text)
  /-- An occurrence takes at least one character. -/
  shorter : ∀ {s : Text} {a : α} {rest : Text}, read? s = some (a, rest) → rest.length < s.length

/-- A text cut at the occurrences of a pattern: the stretch before the first of them, and each of
them with the stretch that follows it. -/
structure Split (α : Type) where
  lead : Text
  found : List (α × Text)

namespace Split

variable {α : Type}

def stretches (t : Split α) : List Text := t.lead :: t.found.map (·.2)

/-- The stretches with each occurrence written anew. -/
def join (write : α → Text) (t : Split α) : Text :=
  t.lead ++ t.found.flatMap fun (a, after) => write a ++ after

theorem join_nil (write : α → Text) (lead : Text) : join write ⟨lead, []⟩ = lead :=
  List.append_nil lead

theorem join_cons (write : α → Text) (lead : Text) (a : α) (next : Text)
    (found : List (α × Text)) :
    join write ⟨lead, (a, next) :: found⟩ = lead ++ (write a ++ join write ⟨next, found⟩) := by
  simp only [join, List.flatMap_cons, List.append_assoc]

end Split

namespace Pattern

variable {α : Type}

def split (p : Pattern α) : Text → Split α
  | [] => ⟨[], []⟩
  | c :: s =>
    match _h : p.read? (c :: s) with
    | some (a, rest) => ⟨[], (a, (split p rest).lead) :: (split p rest).found⟩
    | none => ⟨c :: (split p s).lead, (split p s).found⟩
termination_by s => s.length
decreasing_by
  all_goals first
    | exact p.shorter _h
    | simp

/-- A text is empty, or it starts with an occurrence and is shorter behind it, or no occurrence
starts with its first character. -/
theorem split_induction (p : Pattern α) {motive : Text → Prop} (nil : motive [])
    (read : ∀ c s a rest, p.read? (c :: s) = some (a, rest) → motive rest → motive (c :: s))
    (other : ∀ c s, p.read? (c :: s) = none → motive s → motive (c :: s)) (s : Text) : motive s := by
  induction s using split.induct p with
  | case1 => exact nil
  | case2 c s a rest hr ih => exact read c s a rest hr ih
  | case3 c s hr ih => exact other c s hr ih

/-- The text with each leftmost occurrence written anew. -/
def replace (p : Pattern α) (write : α → Text) (s : Text) : Text := (p.split s).join write

@[simp] theorem split_nil (p : Pattern α) : p.split [] = ⟨[], []⟩ := by rw [split]

theorem split_of_read? {p : Pattern α} {s rest : Text} {a : α} (h : p.read? s = some (a, rest)) :
    p.split s = ⟨[], (a, (p.split rest).lead) :: (p.split rest).found⟩ := by
  cases s with
  | nil => exact absurd (p.shorter h) (by simp)
  | cons c s =>
    rw [split]
    split
    · rename_i heq
      rw [h] at heq
      simp only [Option.some.injEq, Prod.mk.injEq] at heq
      obtain ⟨rfl, rfl⟩ := heq
      rfl
    · rename_i heq
      rw [h] at heq
      cases heq

theorem split_of_none {p : Pattern α} {c : Char} {s : Text} (h : p.read? (c :: s) = none) :
    p.split (c :: s) = ⟨c :: (p.split s).lead, (p.split s).found⟩ := by
  rw [split]
  split
  · rename_i heq
    rw [h] at heq
    cases heq
  · rfl

@[simp] theorem replace_nil (p : Pattern α) (write : α → Text) : p.replace write [] = [] := by
  simp [replace, Split.join]

theorem replace_of_read? {p : Pattern α} {write : α → Text} {s rest : Text} {a : α}
    (h : p.read? s = some (a, rest)) : p.replace write s = write a ++ p.replace write rest := by
  simp [replace, Split.join, split_of_read? h]

theorem replace_of_none {p : Pattern α} {write : α → Text} {c : Char} {s : Text}
    (h : p.read? (c :: s) = none) : p.replace write (c :: s) = c :: p.replace write s := by
  simp [replace, Split.join, split_of_none h]

end Pattern

end Dialects
