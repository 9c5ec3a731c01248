import NamedConstants.Scalar.Binary

/-!
# Numbers as a fixed number of bytes

A number of at most `width` bytes is determined by its last `width` bytes, and
reading them gives the number back (`naturalOfBytes_bytesOfNatural`). An integer
in the range of its kind is determined by its pattern in the same way
(`ofPattern_toPattern`). Together they are the two halves of the fixed binary
forms.
-/

set_option autoImplicit false

namespace NamedConstants

/-! ## Naturals and bytes -/

@[simp] theorem length_bytesOfNatural (width value : Nat) :
    (bytesOfNatural width value).length = width := by
  induction width generalizing value with
  | zero => rfl
  | succ width ih => simp only [bytesOfNatural, List.length_append, ih, List.length_singleton]

theorem naturalOfBytes_append_singleton (bytes : Text.Bytes) (last : UInt8) :
    naturalOfBytes (bytes ++ [last]) = 256 * naturalOfBytes bytes + last.toNat := by
  simp only [naturalOfBytes, List.foldl_append, List.foldl_cons, List.foldl_nil]

/-- One more byte holds 256 times as many numbers. -/
theorem twoTo_byte (width : Nat) : twoTo (8 * (width + 1)) = twoTo (8 * width) * 256 :=
  Nat.pow_add 2 (8 * width) 8

/-- **A number that fits is read back from its bytes.** -/
theorem naturalOfBytes_bytesOfNatural {width value : Nat} (fits : value < twoTo (8 * width)) :
    naturalOfBytes (bytesOfNatural width value) = value := by
  induction width generalizing value with
  | zero =>
      have zero : value = 0 := Nat.lt_one_iff.mp fits
      rw [zero, bytesOfNatural]
      rfl
  | succ width ih =>
      have front : value / 256 < twoTo (8 * width) := by
        rw [Nat.div_lt_iff_lt_mul (by decide), ← twoTo_byte]
        exact fits
      have last : ((value % 256).toUInt8).toNat = value % 256 := by
        rw [Nat.toUInt8_eq, UInt8.toNat_ofNat', Nat.mod_mod]
      rw [bytesOfNatural, naturalOfBytes_append_singleton, ih front, last]
      exact Nat.div_add_mod value 256

/-! ## Integers and patterns -/

namespace IntegerKind

variable (kind : IntegerKind)

/-- Half of the patterns have the highest bit set. -/
theorem twoTo_bitWidth : twoTo kind.bitWidth = 2 * twoTo (kind.bitWidth - 1) := by
  cases kind <;> rfl

variable {kind}

/-- The range of a kind of signed integers. -/
theorem contains_signed (signed : kind.isSigned = true) (value : Int) :
    kind.Contains value ↔
      -(twoTo (kind.bitWidth - 1) : Int) ≤ value ∧ value < twoTo (kind.bitWidth - 1) := by
  simp only [Contains, minimum, maximum, signed, if_true, Int.le_sub_one_iff]

/-- The range of a kind of unsigned integers. -/
theorem contains_unsigned (unsigned : kind.isSigned = false) (value : Int) :
    kind.Contains value ↔ 0 ≤ value ∧ value < twoTo kind.bitWidth := by
  simp only [Contains, minimum, maximum, unsigned, Bool.false_eq_true, if_false, Int.le_sub_one_iff]

/-- A number that is not negative is its own pattern. -/
theorem toPattern_of_nonneg {value : Int} (nonneg : 0 ≤ value)
    (below : value < twoTo kind.bitWidth) : (kind.toPattern value : Int) = value := by
  rw [toPattern, Int.emod_eq_of_lt nonneg below, Int.toNat_of_nonneg nonneg]

/-- A negative number is counted down from the number of patterns. -/
theorem toPattern_of_neg {value : Int} (negative : value < 0)
    (above : -(twoTo kind.bitWidth : Int) ≤ value) :
    (kind.toPattern value : Int) = value + twoTo kind.bitWidth := by
  have wrapped : value % (twoTo kind.bitWidth : Int) = value + twoTo kind.bitWidth := by
    rw [← Int.add_emod_right, Int.emod_eq_of_lt (by omega) (by omega)]
  rw [toPattern, wrapped, Int.toNat_of_nonneg (by omega)]

theorem toPattern_lt (value : Int) : kind.toPattern value < twoTo (8 * kind.byteWidth) := by
  have positive := twoTo_pos kind.bitWidth
  have below := Int.emod_lt_of_pos value (show (0 : Int) < twoTo kind.bitWidth by omega)
  have nonneg := Int.emod_nonneg value (show (twoTo kind.bitWidth : Int) ≠ 0 by omega)
  change (value % (twoTo kind.bitWidth : Int)).toNat < twoTo kind.bitWidth
  omega

/-- **An integer in the range is read back from its pattern.** -/
theorem ofPattern_toPattern {value : Int} (contains : kind.Contains value) :
    kind.ofPattern (kind.toPattern value) = value := by
  have double := kind.twoTo_bitWidth
  cases signed : kind.isSigned with
  | false =>
      obtain ⟨nonneg, below⟩ := (contains_unsigned signed value).mp contains
      have pattern := toPattern_of_nonneg nonneg below
      simp only [ofPattern, signed, Bool.false_and, Bool.false_eq_true, if_false, pattern]
  | true =>
      obtain ⟨above, below⟩ := (contains_signed signed value).mp contains
      by_cases negative : value < 0
      · have least : -(twoTo kind.bitWidth : Int) ≤ value := by omega
        have pattern := toPattern_of_neg negative least
        have high : twoTo (kind.bitWidth - 1) ≤ kind.toPattern value := by omega
        simp only [ofPattern, signed, Bool.true_and, high, decide_true, if_true, pattern]
        omega
      · have most : value < twoTo kind.bitWidth := by omega
        have pattern := toPattern_of_nonneg (Int.not_lt.mp negative) most
        have low : ¬twoTo (kind.bitWidth - 1) ≤ kind.toPattern value := by omega
        simp only [ofPattern, signed, Bool.true_and, low, decide_false, Bool.false_eq_true,
          if_false, pattern]

end IntegerKind

end NamedConstants
