/-!
# Attempts

An attempt that goes on with the result of another fails where either does (`bind_eq_error_iff`),
and one whose errors or results are put in other words fails where it did before
(`mapError_eq_error_iff`, `map_eq_error_iff`).
-/

namespace Dialects

variable {α β ε ε' : Type} {x : Except ε α}

theorem bind_eq_ok_iff {f : α → Except ε β} {b : β} :
    x >>= f = .ok b ↔ ∃ a, x = .ok a ∧ f a = .ok b := by
  cases x <;> simp [bind, Except.bind]

theorem bind_eq_error_iff {f : α → Except ε β} {e : ε} :
    x >>= f = .error e ↔ x = .error e ∨ ∃ a, x = .ok a ∧ f a = .error e := by
  cases x <;> simp [bind, Except.bind]

theorem mapError_eq_ok_iff {f : ε → ε'} {a : α} : x.mapError f = .ok a ↔ x = .ok a := by
  cases x with
  | error e => exact ⟨nofun, nofun⟩
  | ok b =>
    change Except.ok b = Except.ok a ↔ _
    rw [Except.ok.injEq, Except.ok.injEq]

theorem mapError_eq_error_iff {f : ε → ε'} {e : ε'} :
    x.mapError f = .error e ↔ ∃ e', x = .error e' ∧ f e' = e := by
  cases x with
  | error e' =>
    change Except.error (f e') = Except.error e ↔ _
    rw [Except.error.injEq]
    exact ⟨fun h => ⟨e', rfl, h⟩, fun ⟨_, he, h⟩ => Except.error.inj he ▸ h⟩
  | ok b => exact ⟨nofun, nofun⟩

theorem map_eq_ok_iff {f : α → β} {b : β} : x.map f = .ok b ↔ ∃ a, x = .ok a ∧ f a = b := by
  cases x with
  | error e => exact ⟨nofun, nofun⟩
  | ok a =>
    change Except.ok (f a) = Except.ok b ↔ _
    rw [Except.ok.injEq]
    exact ⟨fun h => ⟨a, rfl, h⟩, fun ⟨_, ha, h⟩ => Except.ok.inj ha ▸ h⟩

theorem map_eq_error_iff {f : α → β} {e : ε} : x.map f = .error e ↔ x = .error e := by
  cases x with
  | error e' =>
    change Except.error e' = Except.error e ↔ _
    rw [Except.error.injEq, Except.error.injEq]
  | ok a => exact ⟨nofun, nofun⟩

theorem eq_ok_of_toOption {a : α} (h : x.toOption = some a) : x = .ok a := by
  cases x with
  | error e => cases h
  | ok b => exact congrArg Except.ok (Option.some.inj h)

end Dialects
