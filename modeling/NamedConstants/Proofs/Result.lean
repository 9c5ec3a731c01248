import NamedConstants.Failure

/-!
# Steps that may fail

Two steps, one after the other, succeed exactly if both of them do
(`bind_eq_ok_iff`). What is made of the result of a step does not fail
(`map_eq_ok_iff`) unless the step does (`map_eq_error_iff`), and what is made of a
failure stays one (`mapError_eq_ok_iff`). Without its failure a result is what it was
when it succeeded (`toOption_eq_some_iff`), and steps are steps of options
(`toOption_bind`).
-/

set_option autoImplicit false

namespace NamedConstants

variable {α β ε : Type} {first : Except ε α} {result : β}

/-- The second step succeeds on what the first one gives. -/
theorem bind_eq_ok_iff {next : α → Except ε β} :
    first >>= next = .ok result ↔ ∃ value, first = .ok value ∧ next value = .ok result := by
  cases first with
  | error failure =>
      constructor
      · rintro ⟨⟩
      · rintro ⟨_, ⟨⟩, -⟩
  | ok value =>
      constructor
      · intro whole
        exact ⟨value, rfl, whole⟩
      · rintro ⟨_, ⟨⟩, whole⟩
        exact whole

theorem map_eq_ok_iff {make : α → β} :
    first.map make = .ok result ↔ ∃ value, first = .ok value ∧ make value = result := by
  cases first with
  | error failure =>
      constructor
      · rintro ⟨⟩
      · rintro ⟨_, ⟨⟩, -⟩
  | ok value =>
      constructor
      · rintro ⟨⟩
        exact ⟨value, rfl, rfl⟩
      · rintro ⟨_, ⟨⟩, rfl⟩
        rfl

theorem map_eq_error_iff {make : α → β} {failure : ε} :
    first.map make = .error failure ↔ first = .error failure := by
  cases first with
  | error own =>
      constructor
      · rintro ⟨⟩
        rfl
      · rintro ⟨⟩
        rfl
  | ok value =>
      constructor
      · rintro ⟨⟩
      · rintro ⟨⟩

theorem mapError_eq_ok_iff {ε' : Type} {describe : ε → ε'} {value : α} :
    first.mapError describe = .ok value ↔ first = .ok value := by
  cases first with
  | error failure =>
      constructor
      · rintro ⟨⟩
      · rintro ⟨⟩
  | ok found =>
      constructor
      · rintro ⟨⟩
        rfl
      · rintro ⟨⟩
        rfl

theorem toOption_eq_some_iff {value : α} : first.toOption = some value ↔ first = .ok value := by
  cases first with
  | error failure =>
      constructor
      · rintro ⟨⟩
      · rintro ⟨⟩
  | ok found =>
      constructor
      · rintro ⟨⟩
        rfl
      · rintro ⟨⟩
        rfl

theorem toOption_mapError {ε' : Type} (describe : ε → ε') :
    (first.mapError describe).toOption = first.toOption := by
  cases first with
  | error failure => rfl
  | ok value => rfl

theorem toOption_bind {next : α → Except ε β} :
    (first >>= next).toOption = first.toOption.bind fun value => (next value).toOption := by
  cases first with
  | error failure => rfl
  | ok value => rfl

end NamedConstants
