import NamedConstants.Family.Table
import NamedConstants.Proofs.Json.String
import NamedConstants.Proofs.Scalar.Binary
import NamedConstants.Proofs.Timestamp

/-!
# Keys of scalars

A table finds the scalars that share a key with the one that is asked for
(`sharesKey`). For floats the zeros are brought together before the bits are
taken, and what is not a number has no key; for all other kinds the key is the
binary form. In the kinds of constants this form determines the scalar, so two
scalars share a key exactly when they are equal (`sharesKey_eq_equal`).

Points in time share a key if they are written alike (`sharesKey_timestamp_iff`),
which is more than being equal. Structured scalars share one if they have the same
text (`sharesKey_structured_iff`), and there the two zeros are kept apart that are
equal as numbers.
-/

set_option autoImplicit false

namespace NamedConstants

/-- The kinds of the constants of a source: all but points in time and structured
values. -/
def Kind.isConstant : Kind → Bool
  | timestamp | structured => false
  | _ => true

namespace Scalar

/-- Both scalars have a key, and it is the same. -/
def sharesKey {kind : Kind} (x y : Scalar kind) : Bool :=
  x.key?.any fun key => y.key? == some key

theorem sharesKey_iff {kind : Kind} {x y : Scalar kind} :
    x.sharesKey y = true ↔ ∃ key, x.key? = some key ∧ y.key? = some key := by
  rw [sharesKey, Option.any_eq_true]
  simp only [beq_iff_eq]

theorem sharesKey_symm {kind : Kind} {x y : Scalar kind} (shared : x.sharesKey y = true) :
    y.sharesKey x = true := by
  obtain ⟨key, first, second⟩ := sharesKey_iff.mp shared
  exact sharesKey_iff.mpr ⟨key, second, first⟩

theorem sharesKey_trans {kind : Kind} {x y z : Scalar kind} (shared : x.sharesKey y = true)
    (shared' : y.sharesKey z = true) : x.sharesKey z = true := by
  obtain ⟨key, first, second⟩ := sharesKey_iff.mp shared
  obtain ⟨key', second', third⟩ := sharesKey_iff.mp shared'
  obtain rfl := Option.some.inj (second.symm.trans second')
  exact sharesKey_iff.mpr ⟨key, first, third⟩

/-- What has no key shares none. -/
theorem sharesKey_of_key?_eq_none {kind : Kind} {x : Scalar kind} (none : x.key? = none)
    (y : Scalar kind) : y.sharesKey x = false := by
  refine Bool.eq_false_iff.mpr fun shared => ?_
  obtain ⟨key, -, own⟩ := sharesKey_iff.mp shared
  rw [none] at own
  cases own

/-! ## The binary form determines the scalar -/

theorem toBytes_integer_inj {kind : IntegerKind} {x y : BoundedInt kind} :
    (integer x).toBytes = (integer y).toBytes ↔ x.value = y.value := by
  constructor
  · intro same
    have read := ofBytes_integer x []
    rw [same, ofBytes_integer y []] at read
    exact congrArg BoundedInt.value (Scalar.integer.inj (Except.ok.inj read)).symm
  · intro same
    rw [toBytes, toBytes, same]

theorem toBytes_float_inj {kind : FloatKind} {x y : BinaryFloat kind.format} :
    (float x).toBytes = (float y).toBytes ↔ x = y := by
  constructor
  · intro same
    have read := ofBytes_float x []
    rw [same, ofBytes_float y []] at read
    exact (Scalar.float.inj (Except.ok.inj read)).symm
  · exact fun same => congrArg (fun value => (float value).toBytes) same

theorem toBytes_bool_inj {x y : Bool} : (bool x).toBytes = (bool y).toBytes ↔ x = y := by
  cases x <;> cases y <;> decide

theorem toBytes_string_inj {x y : String} : (string x).toBytes = (string y).toBytes ↔ x = y :=
  ⟨Text.bytesOf_injective, congrArg Text.bytesOf⟩

theorem toBytes_timestamp_inj {x y : Timestamp} :
    (timestamp x).toBytes = (timestamp y).toBytes ↔ x.asWritten = y.asWritten := by
  rw [← Timestamp.toText_eq_iff]
  constructor
  · intro same
    exact String.ofList_injective (Json.writeString_injective (Text.encode_injective same))
  · intro same
    rw [toBytes, toBytes, same]

theorem toBytes_structured_inj {x y : Json} :
    (structured x).toBytes = (structured y).toBytes ↔ x.write = y.write :=
  ⟨Text.encode_injective, congrArg Text.encode⟩

/-! ## The keys of floats -/

section Floats

variable {kind : FloatKind}

theorem key?_of_isNaN {x : BinaryFloat kind.format} (nan : x.isNaN = true) :
    (float x).key? = none := by
  rw [key?, if_pos nan]

/-- A number is filed under its bits, the zeros without their sign. -/
theorem key?_of_not_isNaN {x : BinaryFloat kind.format} (number : x.isNaN = false) :
    (float x).key? = some (float (if x.isZero then x.abs else x)).toBytes := by
  rw [key?, if_neg (Bool.eq_false_iff.mp number)]
  split
  · rfl
  · rfl

/-- Without their signs the zeros are the same number. -/
theorem abs_eq_of_isZero {x y : BinaryFloat kind.format} (zero : x.isZero = true)
    (zero' : y.isZero = true) : x.abs = y.abs := by
  obtain ⟨_, pattern, _⟩ := x
  obtain ⟨_, pattern', _⟩ := y
  have same : pattern = pattern' := (eq_of_beq zero).trans (eq_of_beq zero').symm
  subst same
  rfl

/-- Folding the zeros identifies the numbers that are equal and no others. -/
theorem fold_eq_iff (x y : BinaryFloat kind.format) :
    (if x.isZero then x.abs else x) = (if y.isZero then y.abs else y) ↔
      (x.isZero = true ∧ y.isZero = true) ∨ x = y := by
  have isZero_abs : ∀ z : BinaryFloat kind.format, z.abs.isZero = z.isZero := fun _ => rfl
  cases zero : x.isZero <;> cases zero' : y.isZero
  · simp only [Bool.false_eq_true, if_false, and_self, false_or]
  · simp only [Bool.false_eq_true, if_false, if_true, false_and, false_or]
    constructor
    · intro same
      rw [same, isZero_abs, zero'] at zero
      cases zero
    · intro same
      rw [same, zero'] at zero
      cases zero
  · simp only [Bool.false_eq_true, if_false, if_true, and_false, false_or]
    constructor
    · intro same
      rw [← same, isZero_abs, zero] at zero'
      cases zero'
    · intro same
      rw [← same, zero] at zero'
      cases zero'
  · simp only [if_true, and_self, true_or, iff_true]
    exact abs_eq_of_isZero zero zero'

theorem sharesKey_float_iff (x y : BinaryFloat kind.format) :
    (float x).sharesKey (float y) = true ↔ (float x).equal (float y) = true := by
  rw [equal, BinaryFloat.equal_iff, sharesKey_iff]
  cases nan : x.isNaN
  · cases nan' : y.isNaN
    · simp only [key?_of_not_isNaN nan, key?_of_not_isNaN nan', true_and, Option.some.injEq,
        exists_eq_left', toBytes_float_inj, ← fold_eq_iff x y]
      exact eq_comm
    · simp [key?_of_isNaN nan']
  · simp [key?_of_isNaN nan]

end Floats

/-! ## The keys of all kinds -/

/-- Scalars that are filed under their binary form. -/
theorem sharesKey_iff_toBytes {kind : Kind} {x y : Scalar kind} (filed : x.key? = some x.toBytes)
    (filed' : y.key? = some y.toBytes) : x.sharesKey y = true ↔ x.toBytes = y.toBytes := by
  rw [sharesKey_iff, filed, filed']
  constructor
  · rintro ⟨key, own, other⟩
    exact Option.some.inj (own.trans other.symm)
  · exact fun same => ⟨x.toBytes, rfl, congrArg some same.symm⟩

/-- **Constants share a key exactly when they are equal.** -/
theorem sharesKey_eq_equal {kind : Kind} (constant : kind.isConstant = true) (x y : Scalar kind) :
    x.sharesKey y = x.equal y := by
  rw [Bool.eq_iff_iff]
  cases x with
  | integer x =>
      cases y with
      | integer y => rw [sharesKey_iff_toBytes rfl rfl, toBytes_integer_inj, equal, beq_iff_eq]
  | float x =>
      cases y with
      | float y => exact sharesKey_float_iff x y
  | bool x =>
      cases y with
      | bool y => rw [sharesKey_iff_toBytes rfl rfl, toBytes_bool_inj, equal, beq_iff_eq]
  | string x =>
      cases y with
      | string y => rw [sharesKey_iff_toBytes rfl rfl, toBytes_string_inj, equal, beq_iff_eq]
  | bytes x =>
      cases y with
      | bytes y => rw [sharesKey_iff_toBytes rfl rfl, toBytes, toBytes, equal, beq_iff_eq]
  | timestamp => cases constant
  | structured => cases constant

/-- Points in time are equal if their seconds and nanoseconds are. -/
theorem equal_timestamp_iff {x y : Timestamp} :
    (timestamp x).equal (timestamp y) = true ↔ x = y := by
  rw [equal, Bool.and_eq_true, beq_iff_eq, beq_iff_eq]
  constructor
  · rintro ⟨seconds, nanos⟩
    cases x
    cases y
    subst seconds nanos
    rfl
  · exact fun same => same ▸ ⟨rfl, rfl⟩

/-- **Points in time share a key exactly when they are written alike.** -/
theorem sharesKey_timestamp_iff {x y : Timestamp} :
    (timestamp x).sharesKey (timestamp y) = true ↔ x.asWritten = y.asWritten := by
  rw [sharesKey_iff_toBytes rfl rfl, toBytes_timestamp_inj]

/-- **Structured scalars share a key exactly when they have the same text.** -/
theorem sharesKey_structured_iff {x y : Json} :
    (structured x).sharesKey (structured y) = true ↔ x.write = y.write := by
  rw [sharesKey_iff_toBytes rfl rfl, toBytes_structured_inj]

/-- Only what is not a number has no key, and it equals nothing. -/
theorem equal_of_key?_eq_none {kind : Kind} {x : Scalar kind} (none : x.key? = none)
    (y : Scalar kind) : y.equal x = false := by
  cases x with
  | float x =>
      rw [← sharesKey_eq_equal rfl]
      exact sharesKey_of_key?_eq_none none y
  | integer => cases none
  | bool => cases none
  | string => cases none
  | bytes => cases none
  | timestamp => cases none
  | structured => cases none

section Constants

variable {kind : Kind} (constant : kind.isConstant = true) {x y z : Scalar kind}

include constant

theorem equal_symm (same : x.equal y = true) : y.equal x = true := by
  rw [← sharesKey_eq_equal constant] at same ⊢
  exact sharesKey_symm same

theorem equal_trans (same : x.equal y = true) (same' : y.equal z = true) : x.equal z = true := by
  rw [← sharesKey_eq_equal constant] at same same' ⊢
  exact sharesKey_trans same same'

end Constants

end Scalar

end NamedConstants
