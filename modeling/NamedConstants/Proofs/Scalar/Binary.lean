import NamedConstants.Proofs.Scalar.FixedWidth
import NamedConstants.Proofs.Text.Utf8
import NamedConstants.Scalar.Binary

/-!
# The binary form of scalars

A scalar of a fixed width is read back from its binary form, whatever follows
it (`ofBytes_integer`, `ofBytes_float`, `ofBytes_bool`), and a string that is
not empty is read back from its own bytes (`ofBytes_string`).
-/

set_option autoImplicit false

namespace NamedConstants

/-! ## The bits of floats -/

namespace BinaryFloat

variable {format : BinaryFormat}

theorem toBits_injective {x y : BinaryFloat format} (same : x.toBits = y.toBits) : x = y := by
  rw [← ofBits_toBits x, same, ofBits_toBits]

theorem toBits_lt (x : BinaryFloat format) : x.toBits < 2 * twoTo format.patternBits := by
  have below := x.pattern_lt
  rw [toBits]
  split <;> omega

/-- Equality of numbers: both are zero or they are the same. -/
theorem equal_iff (x y : BinaryFloat format) :
    x.equal y = true ↔
      x.isNaN = false ∧ y.isNaN = false ∧ ((x.isZero = true ∧ y.isZero = true) ∨ x = y) := by
  have bits : x.toBits = y.toBits ↔ x = y := ⟨toBits_injective, congrArg toBits⟩
  simp only [equal, Bool.and_eq_true, Bool.or_eq_true, Bool.not_eq_true', beq_iff_eq, bits,
    and_assoc]

end BinaryFloat

/-- The sign and the pattern fill the bytes of the kind. -/
theorem FloatKind.bits_eq (kind : FloatKind) :
    2 * twoTo kind.format.patternBits = twoTo (8 * kind.byteWidth) := by
  cases kind <;> rfl

theorem FloatKind.toBits_lt (kind : FloatKind) (x : BinaryFloat kind.format) :
    x.toBits < twoTo (8 * kind.byteWidth) := by
  rw [← kind.bits_eq]
  exact x.toBits_lt

theorem FloatKind.byteWidth_pos (kind : FloatKind) : 0 < kind.byteWidth := by
  cases kind <;> decide

theorem IntegerKind.byteWidth_pos (kind : IntegerKind) : 0 < kind.byteWidth := by
  cases kind <;> decide

namespace Scalar

/-! ## Integers in range -/

@[simp] theorem ofInt?_value {kind : IntegerKind} (x : BoundedInt kind) :
    ofInt? kind x.value = some (.integer x) :=
  dif_pos x.contains

@[simp] theorem ofInt_value {kind : IntegerKind} (x : BoundedInt kind) :
    ofInt kind x.value = .ok (.integer x) := by
  rw [ofInt, ofInt?_value]

section OfInt

variable {kind : IntegerKind} {value : Int}

theorem ofInt?_eq_some_iff {raw : Scalar (.integer kind)} :
    ofInt? kind value = some raw ↔ ∃ fits : kind.Contains value, raw = .integer ⟨value, fits⟩ := by
  by_cases contained : kind.Contains value
  · rw [ofInt?, dif_pos contained]
    constructor
    · rintro ⟨⟩
      exact ⟨contained, rfl⟩
    · rintro ⟨_, rfl⟩
      rfl
  · rw [ofInt?, dif_neg contained]
    constructor
    · rintro ⟨⟩
    · rintro ⟨fits, -⟩
      exact absurd fits contained

/-- An integer in the range is a scalar, and any other is reported. -/
theorem ofInt_of_contains (contained : kind.Contains value) :
    ofInt kind value = .ok (.integer ⟨value, contained⟩) :=
  ofInt_value ⟨value, contained⟩

theorem ofInt_of_not_contains (outside : ¬kind.Contains value) :
    ofInt kind value = .error (.overflow (toString value) (.integer kind)) := by
  rw [ofInt, ofInt?, dif_neg outside]

theorem ofInt_eq_ok_iff {raw : Scalar (.integer kind)} :
    ofInt kind value = .ok raw ↔ ∃ fits : kind.Contains value, raw = .integer ⟨value, fits⟩ := by
  rw [← ofInt?_eq_some_iff, ofInt]
  cases ofInt? kind value with
  | none =>
      constructor
      · rintro ⟨⟩
      · rintro ⟨⟩
  | some scalar =>
      constructor
      · rintro ⟨⟩
        rfl
      · rintro ⟨⟩
        rfl

end OfInt

/-! ## Reading -/

/-- The leading bytes of a written number are the number. -/
theorem leading_bytesOfNatural (kind : Kind) {width value : Nat} (fits : value < twoTo (8 * width))
    (rest : Text.Bytes) :
    leading kind width (bytesOfNatural width value ++ rest) = .ok value := by
  have enough : ¬(bytesOfNatural width value ++ rest).length < width := by
    rw [List.length_append, length_bytesOfNatural]
    omega
  rw [leading, if_neg enough, List.take_left' (length_bytesOfNatural width value),
    naturalOfBytes_bytesOfNatural fits]

/-- A written number is not empty. -/
theorem isEmpty_bytesOfNatural {width value : Nat} (positive : 0 < width) (rest : Text.Bytes) :
    (bytesOfNatural width value ++ rest).isEmpty = false := by
  rw [List.isEmpty_eq_false_iff, ← List.length_pos_iff, List.length_append, length_bytesOfNatural]
  omega

/-- **An integer is read back from its bytes.** -/
theorem ofBytes_integer {kind : IntegerKind} (x : BoundedInt kind) (rest : Text.Bytes) :
    ofBytes ((integer x).toBytes ++ rest) (.integer kind) = .ok (.integer x) := by
  simp only [ofBytes, toBytes, isEmpty_bytesOfNatural kind.byteWidth_pos,
    leading_bytesOfNatural _ (IntegerKind.toPattern_lt x.value), bind, Except.bind,
    IntegerKind.ofPattern_toPattern x.contains, ofInt_value, Bool.false_eq_true, if_false]

/-- **A float is read back from its bytes, bit by bit.** -/
theorem ofBytes_float {kind : FloatKind} (x : BinaryFloat kind.format) (rest : Text.Bytes) :
    ofBytes ((float x).toBytes ++ rest) (.float kind) = .ok (.float x) := by
  simp only [ofBytes, toBytes, isEmpty_bytesOfNatural kind.byteWidth_pos,
    leading_bytesOfNatural _ (kind.toBits_lt x), bind, Except.bind, BinaryFloat.ofBits_toBits,
    Bool.false_eq_true, if_false]
  rfl

/-- **A truth value is read back from its byte.** -/
theorem ofBytes_bool (x : Bool) (rest : Text.Bytes) :
    ofBytes ((bool x).toBytes ++ rest) .bool = .ok (.bool x) := by
  cases x <;> rfl

/-- **A string that is not empty is read back from its bytes.** -/
theorem ofBytes_string {text : String} (written : text ≠ "") :
    ofBytes (string text).toBytes .string = .ok (.string text) := by
  have nonempty : (Text.bytesOf text).isEmpty = false := by
    rw [Bool.eq_false_iff]
    intro empty
    have same : Text.bytesOf text = Text.bytesOf "" := List.isEmpty_iff.mp empty
    exact written (Text.bytesOf_injective same)
  simp only [ofBytes, toBytes, nonempty, Text.stringOf_bytesOf, Bool.false_eq_true, if_false]

end Scalar

end NamedConstants
