import NamedConstants.Proofs.BinaryFloat.Conversion
import NamedConstants.Proofs.Scalar.Binary
import NamedConstants.Scalar.Conversion

/-!
# Conversion and coercion

There are two ways of bringing a value into a kind. For numbers, truth values and timestamps
coercion takes whatever conversion takes (`coerce_of_convert`), for the other kinds it is the other
way round (`convert_of_coerce`), and the result is the same. Both ways leave a scalar of the wanted
kind as it is, floats that are not numbers up to their bits, and both of them move an integer between
integer kinds exactly if its number fits (`IsWay.integer_iff`), so it can be moved back.
-/

set_option autoImplicit false

namespace NamedConstants

/-- The kinds that coercion reaches from more values than conversion does. -/
inductive Kind.IsLoose : Kind → Prop
  | integer (kind : IntegerKind) : IsLoose (.integer kind)
  | float (precision : FloatKind) : IsLoose (.float precision)
  | bool : IsLoose .bool
  | timestamp : IsLoose .timestamp

/-- Scalars that are the same, or floats none of which is a number. -/
inductive Scalar.Alike : {kind : Kind} → Scalar kind → Scalar kind → Prop
  | same {kind : Kind} (x : Scalar kind) : Alike x x
  | notNumbers {precision : FloatKind} {x y : BinaryFloat precision.format} (nan : x.isNaN = true)
      (nan' : y.isNaN = true) : Alike (.float x) (.float y)

section Ways

variable {own kind : Kind} {source : Scalar own} {target : Scalar kind}

/-! ## One way within the other -/

/-- **What is converted into a loose kind is coerced to the same.** -/
theorem coerce_of_convert (loose : kind.IsLoose)
    (converted : convert (.scalar source) kind = .ok target) :
    coerce (.scalar source) kind = .ok target := by
  cases loose with
  | integer kind =>
      cases source with
      | integer x => exact converted
      | _ => cases converted
  | float precision =>
      cases source with
      | integer x => exact converted
      | float x => exact converted
      | _ => cases converted
  | bool =>
      cases source with
      | bool truth => exact converted
      | string text => exact converted
      | _ => cases converted
  | timestamp =>
      cases source with
      | timestamp t => exact converted
      | string text => exact converted
      | _ => cases converted

/-- **What is coerced into any other kind is converted to the same.** -/
theorem convert_of_coerce (strict : ¬kind.IsLoose)
    (coerced : coerce (.scalar source) kind = .ok target) :
    convert (.scalar source) kind = .ok target := by
  cases kind with
  | integer kind => exact absurd (.integer kind) strict
  | float precision => exact absurd (.float precision) strict
  | bool => exact absurd .bool strict
  | timestamp => exact absurd .timestamp strict
  | string =>
      cases source with
      | string text =>
          cases coerced
          exact congrArg (fun shown => Except.ok (Scalar.string shown)) text.ofList_toList
      | bytes octets => exact coerced
      | _ => cases coerced
  | bytes =>
      cases source with
      | string text => exact coerced
      | bytes octets => exact coerced
      | _ => cases coerced
  | structured => cases coerced

/-- The ways do not disagree. -/
theorem eq_of_convert_of_coerce {target' : Scalar kind}
    (converted : convert (.scalar source) kind = .ok target)
    (coerced : coerce (.scalar source) kind = .ok target') : target = target' := by
  by_cases loose : kind.IsLoose
  · have same := (coerce_of_convert loose converted).symm.trans coerced
    exact Except.ok.inj same
  · have same := converted.symm.trans (convert_of_coerce loose coerced)
    exact Except.ok.inj same

end Ways

/-! ## Scalars of the wanted kind -/

/-- **A scalar is converted into its own kind without a change.** -/
theorem exists_convert_self {kind : Kind} (source : Scalar kind) :
    ∃ target, convert (.scalar source) kind = .ok target ∧ target.Alike source := by
  cases source with
  | integer x => exact ⟨.integer x, Scalar.ofInt_value x, .same _⟩
  | @float precision x =>
      obtain ⟨back, narrowed, number, still⟩ := narrow_widen x
      refine ⟨.float back, narrowed, ?_⟩
      cases nan : x.isNaN with
      | false =>
          rw [number nan]
          exact .same _
      | true => exact .notNumbers (still nan) nan
  | bool truth => exact ⟨.bool truth, rfl, .same _⟩
  | string text =>
      have verbatim : convert (.scalar (.string text)) .string =
          .ok (.string (String.ofList text.toList)) := rfl
      rw [String.ofList_toList] at verbatim
      exact ⟨.string text, verbatim, .same _⟩
  | bytes octets => exact ⟨.bytes octets, rfl, .same _⟩
  | timestamp t => exact ⟨.timestamp t, rfl, .same _⟩
  | structured value => exact ⟨.structured value, rfl, .same _⟩

/-- **A scalar is coerced into its own kind without a change**, unless it is structured. -/
theorem exists_coerce_self {kind : Kind} (source : Scalar kind) (plain : kind ≠ .structured) :
    ∃ target, coerce (.scalar source) kind = .ok target ∧ target.Alike source := by
  by_cases loose : kind.IsLoose
  · obtain ⟨target, converted, alike⟩ := exists_convert_self source
    exact ⟨target, coerce_of_convert loose converted, alike⟩
  · cases source with
    | integer x => exact absurd (.integer _) loose
    | float x => exact absurd (.float _) loose
    | bool truth => exact absurd .bool loose
    | timestamp t => exact absurd .timestamp loose
    | string text => exact ⟨.string text, rfl, .same _⟩
    | bytes octets => exact ⟨.bytes octets, rfl, .same _⟩
    | structured value => exact absurd rfl plain

/-! ## Integers -/

/-- The two ways of bringing values into kinds. -/
inductive IsWay : (RawValue → (kind : Kind) → Result (Scalar kind)) → Prop
  | conversion : IsWay convert
  | coercion : IsWay coerce

section Integers

variable {bring : RawValue → (kind : Kind) → Result (Scalar kind)} (way : IsWay bring)
  {first second : IntegerKind}

include way

/-- Either way compares the number of an integer with the range of the other kind. -/
theorem IsWay.integer_eq (x : BoundedInt first) :
    bring (.scalar (.integer x)) (.integer second) = Scalar.ofInt second x.value := by
  cases way with
  | conversion => rfl
  | coercion => rfl

/-- **On either way an integer becomes the integer with the same number.** -/
theorem IsWay.integer_iff (x : BoundedInt first) (y : BoundedInt second) :
    bring (.scalar (.integer x)) (.integer second) = .ok (.integer y) ↔ y.value = x.value := by
  rw [way.integer_eq, Scalar.ofInt_eq_ok_iff]
  constructor
  · rintro ⟨fits, ⟨⟩⟩
    rfl
  · intro same
    obtain ⟨value, contained⟩ := y
    obtain rfl : value = x.value := same
    exact ⟨contained, rfl⟩

end Integers

/-- **The two ways agree.** Where both of them succeed, the results are the same; for integers,
floats, truth values and timestamps coercion succeeds wherever conversion does. A scalar of the
wanted kind stays what it is, a structured one on the way of conversion only. An integer is moved to
another integer kind exactly if this kind has its number, and either way moves it back. -/
theorem convert_agrees_coerce {own : Kind} (source : Scalar own) :
    (∀ (kind : Kind) (x y : Scalar kind), convert (.scalar source) kind = .ok x →
      coerce (.scalar source) kind = .ok y → x = y) ∧
    (∀ (kind : Kind), kind.IsLoose → ∀ x : Scalar kind, convert (.scalar source) kind = .ok x →
      coerce (.scalar source) kind = .ok x) ∧
    (∃ x : Scalar own, convert (.scalar source) own = .ok x ∧ x.Alike source) ∧
    (own ≠ .structured → ∃ x : Scalar own, coerce (.scalar source) own = .ok x ∧ x.Alike source) ∧
    ∀ (first second : IntegerKind) (x : BoundedInt first) (y : BoundedInt second), ∀ there back,
      IsWay there → IsWay back →
        (there (.scalar (.integer x)) (.integer second) = .ok (.integer y) ↔ y.value = x.value) ∧
        (there (.scalar (.integer x)) (.integer second) = .ok (.integer y) →
          back (.scalar (.integer y)) (.integer first) = .ok (.integer x)) := by
  refine ⟨fun kind x y => eq_of_convert_of_coerce, fun kind loose x => coerce_of_convert loose,
    exists_convert_self source, exists_coerce_self source, ?_⟩
  intro first second x y there back way way'
  have moved := way.integer_iff x y
  exact ⟨moved, fun there => (way'.integer_iff y x).mpr (moved.mp there).symm⟩

end NamedConstants
