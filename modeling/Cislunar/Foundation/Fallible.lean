import Mathlib.Tactic.Common

/-! Computations that may fail, step after step. -/

namespace Foundation

/-- A computation followed by another succeeds exactly when both do. -/
theorem bind_eq_ok {ε α β : Type} {first : Except ε α} {next : α → Except ε β} {result : β} :
    (first >>= next) = .ok result ↔ ∃ value, first = .ok value ∧ next value = .ok result := by
  -- By the outcome of the first computation.
  cases first <;> simp [bind, Except.bind]

/-- A check followed by a computation succeeds exactly when both do. -/
theorem check_bind_eq_ok {ε β : Type} {check : Except ε Unit} {next : Unit → Except ε β}
    {result : β} : (check >>= next) = .ok result ↔ check = .ok () ∧ next () = .ok result := by
  -- By the outcome of the check.
  cases check <;> simp [bind, Except.bind]

/-- A computation followed by another fails exactly when either does. -/
theorem bind_eq_error {ε α β : Type} {first : Except ε α} {next : α → Except ε β} {error : ε} :
    (first >>= next) = .error error ↔
      first = .error error ∨ ∃ value, first = .ok value ∧ next value = .error error := by
  -- Either computation may be the one that failed.
  cases first <;> simp [bind, Except.bind]

/-- Renaming errors leaves values alone. -/
theorem of_mapError_eq_ok {α ε ε' : Type} {rename : ε → ε'} {result : Except ε α} {value : α}
    (same : result.mapError rename = .ok value) : result = .ok value := by
  -- Renaming errors leaves values alone.
  cases result with
  | error error => cases same
  | ok answer => cases same; rfl

/-- A renamed error comes from an error. -/
theorem of_mapError_eq_error {α ε ε' : Type} {rename : ε → ε'} {result : Except ε α} {error : ε'}
    (same : result.mapError rename = .error error) :
    ∃ cause, result = .error cause ∧ rename cause = error := by
  -- A renamed error had a cause.
  cases result with
  | error cause => exact ⟨cause, rfl, Except.error.inj same⟩
  | ok answer => cases same

/-- A value that is there was returned. -/
theorem of_toOption_eq_some {α ε : Type} {result : Except ε α} {value : α}
    (same : result.toOption = some value) : result = .ok value := by
  -- An error has no value to give.
  cases result with
  | error error => cases same
  | ok answer => cases same; rfl

end Foundation
