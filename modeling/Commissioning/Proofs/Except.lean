/-!
# Computations that may fail

What is known of a computation from the fact that it has succeeded.
-/

namespace Commissioning

theorem exists_of_bind_eq_ok {ε α β : Type} {x : Except ε α} {f : α → Except ε β} {b : β}
    (h : x >>= f = .ok b) : ∃ a, x = .ok a ∧ f a = .ok b := by
  cases x with
  | ok a => exact ⟨a, rfl, h⟩
  | error e => cases h

/-- What follows a computation matters only where it succeeds. -/
theorem bind_congr_of_ok {ε α β : Type} {x : Except ε α} {f g : α → Except ε β}
    (h : ∀ a, x = .ok a → f a = g a) : x >>= f = x >>= g := by
  cases x with
  | ok a => exact h a rfl
  | error e => rfl

theorem eq_ok_of_mapError {ε ε' α : Type} {x : Except ε α} {wrap : ε → ε'} {a : α}
    (h : x.mapError wrap = .ok a) : x = .ok a := by
  cases x with
  | ok a' =>
    cases h
    rfl
  | error e => cases h

end Commissioning
