import Mathlib.Control.Monad.Basic

/-!
# Outcomes of steps in a row

Steps in a row succeed exactly if each of them does, and the first that fails decides the
error of all.
-/

namespace SocketMux.Outcome

variable {ε δ α β γ : Type} {first : Except ε α} {next : α → Except ε β}

theorem bind_eq_ok_iff {result : β} :
    (first >>= next) = .ok result ↔ ∃ value, first = .ok value ∧ next value = .ok result := by
  constructor
  · intro succeeds
    cases first with
    | error err => cases succeeds
    | ok value => exact ⟨value, rfl, succeeds⟩
  · rintro ⟨value, rfl, succeeds⟩
    exact succeeds

theorem bind_eq_error_iff {err : ε} : (first >>= next) = .error err ↔
    first = .error err ∨ ∃ value, first = .ok value ∧ next value = .error err := by
  constructor
  · intro fails
    cases first with
    | error cause =>
      cases fails
      exact .inl rfl
    | ok value => exact .inr ⟨value, rfl, fails⟩
  · rintro (rfl | ⟨value, rfl, fails⟩)
    · rfl
    · exact fails

theorem map_eq_ok_iff {change : α → β} {result : β} :
    first.map change = .ok result ↔ ∃ value, first = .ok value ∧ change value = result := by
  constructor
  · intro succeeds
    cases first with
    | error err => cases succeeds
    | ok value => exact ⟨value, rfl, Except.ok.inj succeeds⟩
  · rintro ⟨value, rfl, rfl⟩
    rfl

theorem map_eq_error_iff {change : α → β} {err : ε} :
    first.map change = .error err ↔ first = .error err := by
  constructor
  · intro fails
    cases first with
    | error cause =>
      cases fails
      rfl
    | ok value => cases fails
  · rintro rfl
    rfl

/-- What is changed twice is changed by both changes at once. -/
theorem map_map {change : α → β} {again : β → γ} :
    (first.map change).map again = first.map (again ∘ change) := by
  cases first <;> rfl

theorem mapError_eq_ok_iff {change : ε → δ} {result : α} :
    first.mapError change = .ok result ↔ first = .ok result := by
  constructor
  · intro succeeds
    cases first with
    | error err => cases succeeds
    | ok value => exact congrArg Except.ok (Except.ok.inj succeeds)
  · rintro rfl
    rfl

theorem toOption_eq_some_iff {value : α} : first.toOption = some value ↔ first = .ok value := by
  cases first with
  | error err => exact ⟨nofun, nofun⟩
  | ok other => exact ⟨fun same => congrArg Except.ok (Option.some.inj same),
      fun same => congrArg some (Except.ok.inj same)⟩

end SocketMux.Outcome
