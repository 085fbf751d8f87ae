import Mathlib.Logic.Basic

/-! Computations that can end in an error: when a step or a whole succeeds, and when it fails. -/

namespace Localize

/-- The computation ends in an error. -/
def Fails {ε α : Type} (x : Except ε α) : Prop := ∃ e, x = .error e

variable {ε δ α β : Type} {x : Except ε α}

theorem exists_ok_of_not_fails (h : ¬ Fails x) : ∃ a, x = .ok a := by
  cases x with
  | error e => exact absurd ⟨e, rfl⟩ h
  | ok a => exact ⟨a, rfl⟩

@[simp] theorem not_fails_ok (a : α) : ¬ Fails (.ok a : Except ε α) := nofun

@[simp] theorem fails_error (e : ε) : Fails (.error e : Except ε α) := ⟨e, rfl⟩

theorem fails_bind_iff {f : α → Except ε β} :
    Fails (x >>= f) ↔ Fails x ∨ ∃ a, x = .ok a ∧ Fails (f a) := by
  cases x <;> simp [bind, Except.bind]

theorem fails_map_iff {f : α → β} : Fails (x.map f) ↔ Fails x := by
  cases x <;> simp [Except.map]

theorem fails_mapError_iff {f : ε → δ} : Fails (x.mapError f) ↔ Fails x := by
  cases x with
  | error e => exact iff_of_true (fails_error (f e)) (fails_error e)
  | ok a => exact iff_of_false (not_fails_ok a) (not_fails_ok a)

theorem mapError_eq_ok_iff {f : ε → δ} {a : α} : x.mapError f = .ok a ↔ x = .ok a := by
  cases x with
  | error e => constructor <;> intro h <;> cases h
  | ok b => constructor <;> intro h <;> cases h <;> rfl

theorem bind_eq_ok_iff {f : α → Except ε β} {b : β} :
    (x >>= f) = .ok b ↔ ∃ a, x = .ok a ∧ f a = .ok b := by
  cases x <;> simp [bind, Except.bind]

theorem map_eq_ok_iff {f : α → β} {b : β} : x.map f = .ok b ↔ ∃ a, x = .ok a ∧ f a = b := by
  cases x <;> simp [Except.map]

end Localize
