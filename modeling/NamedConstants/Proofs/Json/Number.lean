import NamedConstants.Proofs.BinaryFloat.Conversion
import NamedConstants.Proofs.BinaryFloat.Positional
import NamedConstants.Proofs.BinaryFloat.Shortest
import NamedConstants.Proofs.Json.Token

/-!
# Decimals as JSON numbers

A positional text whose digits make a number of 64 bits is read as a whole number
(`ofText?_whole`), or this number is divided by the power of ten that the places
behind the point make (`ofText?_fraction`). The reader divides two floats, so there
is one rounding, to the nearest number, if both of them are exact
(`divideByPower_of_short`): the digits need at most 53 bits, and the power of ten is
one of the first 22.
-/

set_option autoImplicit false

namespace NamedConstants.Json

open BinaryFloat (spanDigits)

/-! ## Texts -/

/-- Each digit behind the point lowers the power of ten. -/
theorem withFraction_digits (negative : Bool) (significand : Nat) (start : Int)
    {digits : List Char} (all : AllDigits digits) (written : digits ≠ [])
    (fits : Nat.ofDigitChars 10 digits significand ≤ largestSignificand) :
    withFraction negative significand start digits =
      (scale (Nat.ofDigitChars 10 digits significand) (start - digits.length)).map fun x =>
        (signed negative x, []) := by
  have read := spanDigits_append all EndsDigits.nil
  rw [List.append_nil] at read
  have some : digits.isEmpty = false := List.isEmpty_eq_false_iff.mpr written
  rw [withFraction, read]
  dsimp only
  rw [some, collect_digits significand fits]
  rfl

/-- A positional text with a sign is read as the number in it. -/
theorem ofText?_signed {negative : Bool} {decimal : Decimal} {value : Json}
    (read : unsignedNumber negative decimal.positional = some (value, [])) :
    ofText? (if negative then '-' :: decimal.positional else decimal.positional) = some value := by
  obtain ⟨c, rest, text, digit⟩ := decimal.exists_positional_eq_cons
  rw [text] at read ⊢
  cases negative with
  | false => exact ofText?_of_number (Or.inl digit) ((number?_of_digit digit rest).trans read)
  | true => exact ofText?_of_number (Or.inr rfl) read

section Texts

variable (negative : Bool) {decimal : Decimal} (nonzero : decimal.digits ≠ 0)

include nonzero

/-- **Without a fraction the digits are read as a whole number.** -/
theorem ofText?_whole (whole : 0 ≤ decimal.exponent)
    (fits : decimal.digits * tenTo decimal.exponent.toNat ≤ largestSignificand) :
    ofText? (if negative then '-' :: decimal.positional else decimal.positional) =
      some (wholeNumber negative (decimal.digits * tenTo decimal.exponent.toNat)) := by
  have none : decimal.fraction = [] := by
    rw [← List.length_eq_zero_iff, decimal.length_fraction]
    omega
  have spelled := decimal.ofDigitChars_parts
  rw [none, List.append_nil] at spelled
  have read := unsignedNumber_digits negative decimal.allDigits_whole decimal.whole_ne_nil
    (decimal.leadingZero_whole nonzero) (by rwa [spelled]) EndsInteger.nil
  rw [spelled, List.append_nil, ← decimal.positional_of_whole whole] at read
  exact ofText?_signed read

/-- **With a fraction the digits are divided by a power of ten.** -/
theorem ofText?_fraction (fractional : decimal.exponent < 0)
    (fits : decimal.digits ≤ largestSignificand) :
    ofText? (if negative then '-' :: decimal.positional else decimal.positional) =
      some (signed negative
        (divideByPower (.ofInt decimal.digits) (-decimal.exponent).toNat)) := by
  have unscaled : decimal.exponent.toNat = 0 := by omega
  have places := decimal.length_fraction
  have spelled := decimal.ofDigitChars_parts
  rw [unscaled, show tenTo 0 = 1 from rfl, Nat.mul_one, Nat.ofDigitChars_append] at spelled
  have grown := le_ofDigitChars (Nat.ofDigitChars 10 decimal.whole 0) decimal.fraction
  have written : decimal.whole.isEmpty = false := List.isEmpty_eq_false_iff.mpr decimal.whole_ne_nil
  have written' : decimal.fraction ≠ [] := by
    rw [← List.length_pos_iff]
    omega
  have exponent : (0 : Int) - decimal.fraction.length = decimal.exponent := by omega
  refine ofText?_signed ?_
  rw [decimal.positional_of_fraction fractional, unsignedNumber,
    spanDigits_append decimal.allDigits_whole (EndsDigits.cons rfl)]
  dsimp only
  rw [written, decimal.leadingZero_whole nonzero, collect_digits 0 (by omega)]
  have read := withFraction_digits negative (Nat.ofDigitChars 10 decimal.whole 0) 0
    decimal.allDigits_fraction written' (by omega)
  rw [spelled, exponent, scale, if_pos fractional, Option.map_some] at read
  exact read

end Texts

theorem wholeNumber_eq (negative : Bool) {significand : Nat} (positive : 0 < significand)
    (fits : significand ≤ twoTo 63) :
    wholeNumber negative significand =
      .integer (if negative then -(significand : Int) else significand) := by
  cases negative with
  | false => rfl
  | true => simp only [wholeNumber, positive, fits, decide_true, Bool.and_self, Bool.not_true,
      Bool.false_eq_true, if_false, if_true]

theorem signed_ofPattern (negative : Bool) (pattern : Nat) :
    signed negative (.ofPattern false pattern) = .float (.ofPattern negative pattern) := by
  cases negative <;> rfl

/-! ## Exact operands -/

open BinaryFormat (double)

/-- A significand of 53 bits is the size of a finite float, also scaled. -/
theorem exists_double {significand : Nat} (fits : significand < twoTo 53) (shift : Nat)
    (bounded : shift ≤ 2045) :
    ∃ pattern < double.infinity, double.units pattern = significand * twoTo shift := by
  obtain ⟨pattern, size⟩ := double.exists_units_eq fits shift
  have most : twoTo 53 * twoTo 2045 ≤ double.units double.infinity := by decide +kernel
  have below : double.units pattern < double.units double.infinity := by
    rw [size]
    refine Nat.lt_of_lt_of_le (Nat.mul_lt_mul_of_pos_right fits (twoTo_pos shift)) ?_
    exact Nat.le_trans (Nat.mul_le_mul_left _ (twoTo_le bounded)) most
  exact ⟨pattern, BinaryFormat.lt_of_units_lt below, size⟩

theorem round_double_units {pattern : Nat} (finite : pattern < double.infinity) :
    double.round (double.units pattern) 1 = pattern := by
  have rounded := BinaryFormat.round_units (by decide) Nat.one_pos finite
  rwa [Nat.mul_one] at rounded

/-- A whole number of 53 bits is a float. -/
theorem ofInt_natCast {significand : Nat} (fits : significand < twoTo 53) :
    ∃ pattern < double.infinity,
      double.units pattern = significand * twoTo double.unitExponent ∧
        (BinaryFloat.ofInt significand : Double) = .ofPattern false pattern := by
  obtain ⟨pattern, finite, size⟩ := exists_double fits double.unitExponent (by decide)
  refine ⟨pattern, finite, size, ?_⟩
  have positive : decide ((significand : Int) < 0) = false := decide_eq_false (by omega)
  rw [BinaryFloat.ofInt, BinaryFloat.ofRatio, positive, Int.natAbs_natCast, ← size,
    round_double_units finite]

/-- A power of ten within the range is rounded to a float. -/
theorem powerOfTen_eq_round {exponent : Nat} (small : exponent ≤ 308) :
    powerOfTen exponent =
      .ofPattern false (double.round (tenTo exponent * twoTo double.unitExponent) 1) := by
  have unit : double.unitExponent = 1074 := by decide
  have width : (decimalDigits 1).length = 1 := by decide
  have range : twoTo double.exponentBits = 2048 := by decide
  rw [powerOfTen, BinaryFormat.ofDecimal, if_neg Nat.one_ne_zero]
  dsimp only
  rw [width, range, if_neg (by omega), if_neg (by omega), if_pos (by omega), Nat.one_mul,
    Int.toNat_natCast, Nat.mul_comm]

/-- The first powers of ten are floats. -/
theorem powerOfTen_eq {exponent : Nat} (small : exponent ≤ 22) :
    ∃ pattern < double.infinity,
      double.units pattern = tenTo exponent * twoTo double.unitExponent ∧
        powerOfTen exponent = .ofPattern false pattern := by
  have fits : fiveTo exponent < twoTo 53 := Nat.lt_of_le_of_lt (fiveTo_le small) (by decide)
  have unit : double.unitExponent = 1074 := by decide
  obtain ⟨pattern, finite, size⟩ := exists_double fits (exponent + double.unitExponent) (by omega)
  rw [twoTo_add, ← Nat.mul_assoc, Nat.mul_comm (fiveTo exponent), ← tenTo_eq] at size
  refine ⟨pattern, finite, size, ?_⟩
  rw [powerOfTen_eq_round (by omega), ← size, round_double_units finite]

/-- **A short significand is divided to the nearest float.** -/
theorem divideByPower_of_short {decimal : Decimal} (fits : decimal.digits < twoTo 53)
    (fractional : decimal.exponent < 0) (few : (-decimal.exponent).toNat ≤ 22) :
    divideByPower (.ofInt decimal.digits) (-decimal.exponent).toNat =
      .ofPattern false (double.round (decimal.units double) (tenTo (-decimal.exponent).toNat)) := by
  obtain ⟨dividend, finite, size, whole⟩ := ofInt_natCast fits
  obtain ⟨divisor, finite', size', power⟩ := powerOfTen_eq few
  have unscaled : decimal.exponent.toNat = 0 := by omega
  rw [divideByPower, if_pos (by omega), whole, power, BinaryFloat.div,
    BinaryFloat.pattern_ofPattern_of_finite finite,
    BinaryFloat.pattern_ofPattern_of_finite finite', size, size', BinaryFloat.ofRatio,
    BinaryFormat.round_mul_right (by decide) (tenTo_pos _) (twoTo_pos _), Decimal.units, unscaled,
    show tenTo 0 = 1 from rfl, Nat.mul_one]
  rfl

end NamedConstants.Json
