import NamedConstants.BinaryFloat.Text
import NamedConstants.Proofs.BinaryFloat.DoubleRounding
import NamedConstants.Proofs.BinaryFloat.Positional

/-!
# Reading floats

What the text of a float says does not depend on the format: a decimal, infinity or no number
(`spelling?`). The float that is read is the one nearest to it (`toOption_ofText`), because the
decimals that are answered without computing a power are rounded to infinity or zero, too
(`ofDecimal_eq_nearest`). The text of a finite float spells the decimal that is written for it
(`spelling?_toText`), and the float is the one nearest to this decimal (`nearest_written`).
-/

set_option autoImplicit false

namespace NamedConstants

/-! ## The nearest pattern -/

/-- The pattern nearest to a decimal. -/
def Decimal.nearest (format : BinaryFormat) (decimal : Decimal) : Nat :=
  format.round (decimal.units format) (tenTo (-decimal.exponent).toNat)

namespace BinaryFormat

variable {format : BinaryFormat}

/-- A number lies between the powers of ten around its digits. -/
theorem digits_bounds {digits : Nat} (nonzero : digits ≠ 0) :
    tenTo ((decimalDigits digits).length - 1) ≤ digits ∧
      digits < tenTo (decimalDigits digits).length := by
  have written : 0 < (decimalDigits digits).length := Nat.length_toDigits_pos
  constructor
  · rcases Nat.eq_zero_or_pos ((decimalDigits digits).length - 1) with single | more
    · rw [single]
      exact Nat.pos_of_ne_zero nonzero
    · refine Nat.le_of_not_lt fun below => ?_
      have fewer := (Nat.length_toDigits_le_iff (by decide) more).mpr below
      rw [← decimalDigits] at fewer
      omega
  · exact (Nat.length_toDigits_le_iff (by decide) written).mp (Nat.le_refl _)

/-- Infinity is smaller than a power of ten of ones. -/
theorem units_infinity_le (format : BinaryFormat) :
    format.units format.infinity ≤
      tenTo (twoTo format.exponentBits) * twoTo format.unitExponent := by
  have fraction : format.fractionBits ≤ format.unitExponent := Nat.le_add_left _ _
  calc format.units format.infinity
      ≤ format.units (twoTo format.patternBits) :=
        format.units_le_units (Nat.le_of_lt format.infinity_lt)
    _ = twoTo (twoTo format.exponentBits - 1) * twoTo format.fractionBits := by
        rw [units_patternBits, Nat.add_comm, twoTo_add]
    _ ≤ tenTo (twoTo format.exponentBits) * twoTo format.unitExponent :=
        Nat.mul_le_mul
          (Nat.le_trans (twoTo_le (Nat.sub_le _ _)) (twoTo_le_tenTo _)) (twoTo_le fraction)

section Range

variable {decimal : Decimal}

/-- A decimal with that many digits in front of the point is rounded to infinity. -/
theorem nearest_of_large (wide : 0 < format.fractionBits) (nonzero : decimal.digits ≠ 0)
    (large : (twoTo format.exponentBits : Nat) <
      ((decimalDigits decimal.digits).length : Int) + decimal.exponent) :
    decimal.nearest format = format.infinity := by
  have least := (digits_bounds nonzero).1
  refine round_eq_infinity wide (tenTo_pos _) ?_
  calc format.units format.infinity * tenTo (-decimal.exponent).toNat
      ≤ tenTo (twoTo format.exponentBits) * twoTo format.unitExponent *
          tenTo (-decimal.exponent).toNat := Nat.mul_le_mul_right _ format.units_infinity_le
    _ = tenTo (twoTo format.exponentBits + (-decimal.exponent).toNat) *
          twoTo format.unitExponent := by rw [tenTo_add, Nat.mul_right_comm]
    _ ≤ tenTo ((decimalDigits decimal.digits).length - 1 + decimal.exponent.toNat) *
          twoTo format.unitExponent := Nat.mul_le_mul_right _ (tenTo_le (by omega))
    _ = tenTo ((decimalDigits decimal.digits).length - 1) * twoTo format.unitExponent *
          tenTo decimal.exponent.toNat := by rw [tenTo_add, Nat.mul_right_comm]
    _ ≤ decimal.units format := Nat.mul_le_mul_right _ (Nat.mul_le_mul_right _ least)

/-- A decimal with that many zeros behind the point is rounded to zero. -/
theorem nearest_of_small (wide : 0 < format.fractionBits) (nonzero : decimal.digits ≠ 0)
    (small : ((decimalDigits decimal.digits).length : Int) + decimal.exponent <
      -(format.unitExponent + 1 : Nat)) :
    decimal.nearest format = 0 := by
  have most := (digits_bounds nonzero).2
  have first : format.middle 0 = 1 := by
    have one : 1 < twoTo format.fractionBits := Nat.one_lt_two_pow (Nat.ne_of_gt wide)
    rw [middle, units_zero, Nat.zero_add, Nat.zero_add, units_subnormal one]
  refine Nat.le_zero.mp (round_le_of_lt_middle wide (tenTo_pos _) ?_)
  rw [first, Nat.one_mul]
  calc 2 * decimal.units format
      < 2 * (tenTo (decimalDigits decimal.digits).length * twoTo format.unitExponent *
          tenTo decimal.exponent.toNat) := by
        refine Nat.mul_lt_mul_of_pos_left ?_ Nat.two_pos
        exact Nat.mul_lt_mul_of_pos_right (Nat.mul_lt_mul_of_pos_right most (twoTo_pos _))
          (tenTo_pos _)
    _ ≤ tenTo 1 * (tenTo (decimalDigits decimal.digits).length * tenTo format.unitExponent *
          tenTo decimal.exponent.toNat) := by
        refine Nat.mul_le_mul (by decide) (Nat.mul_le_mul_right _ (Nat.mul_le_mul_left _ ?_))
        exact twoTo_le_tenTo _
    _ = tenTo (1 + ((decimalDigits decimal.digits).length + format.unitExponent +
          decimal.exponent.toNat)) := by simp only [tenTo_add]
    _ ≤ tenTo (-decimal.exponent).toNat := tenTo_le (by omega)

theorem nearest_of_zero (wide : 0 < format.fractionBits) (zero : decimal.digits = 0) :
    decimal.nearest format = 0 := by
  refine Nat.le_zero.mp (round_le_of_le wide (tenTo_pos _) ?_)
  rw [Decimal.units, zero, Nat.zero_mul, Nat.zero_mul]
  exact Nat.zero_le _

end Range

/-- **The answers for decimals far outside the range are the nearest patterns, too.** -/
theorem ofDecimal_eq_nearest (wide : 0 < format.fractionBits) (decimal : Decimal) :
    format.ofDecimal decimal = decimal.nearest format := by
  rw [ofDecimal]
  split
  · rename_i zero
    exact (nearest_of_zero wide zero).symm
  · rename_i nonzero
    dsimp only
    split
    · rename_i large
      exact (nearest_of_large wide nonzero large).symm
    · split
      · rename_i small
        exact (nearest_of_small wide nonzero small).symm
      · split
        · rename_i whole
          rw [Decimal.nearest, show (-decimal.exponent).toNat = 0 by omega]
          rfl
        · rename_i fractional
          rw [Decimal.nearest, Decimal.units, show decimal.exponent.toNat = 0 by omega]
          rw [show tenTo 0 = 1 from rfl, Nat.mul_one]

end BinaryFormat

namespace BinaryFloat

/-! ## What a text spells -/

/-- What the text of a float says in every format. -/
inductive Spelling
  | decimal (negative : Bool) (size : Decimal)
  | infinity (negative : Bool)
  | notANumber (negative : Bool)
  deriving DecidableEq, Repr

namespace Spelling

/-- What a text without a sign says. -/
def unsigned? (negative : Bool) (text : List Char) : Option Spelling :=
  match decimal? text with
  | some size => some (decimal negative size)
  | none =>
    let lower := text.map Char.toLower
    if lower == "inf".toList || lower == "infinity".toList then some (infinity negative)
    else if lower == "nan".toList then some (notANumber negative)
    else none

/-- The float nearest to what a text says. -/
def nearest (format : BinaryFormat) : Spelling → BinaryFloat format
  | decimal negative size => ofPattern negative (size.nearest format)
  | infinity negative => BinaryFloat.infinity negative
  | notANumber negative => BinaryFloat.notANumber negative

end Spelling

/-- What a text says, if it is the text of a float. -/
def spelling? : List Char → Option Spelling
  | '-' :: rest => Spelling.unsigned? true rest
  | '+' :: rest => Spelling.unsigned? false rest
  | rest => Spelling.unsigned? false rest

variable {format : BinaryFormat}

theorem unsigned?_eq (wide : 0 < format.fractionBits) (negative : Bool) (text : List Char) :
    (unsigned? negative text : Option (BinaryFloat format)) =
      (Spelling.unsigned? negative text).map (Spelling.nearest format) := by
  rw [unsigned?, Spelling.unsigned?]
  cases decimal? text with
  | some size =>
      exact congrArg (fun pattern => some (ofPattern negative pattern))
        (BinaryFormat.ofDecimal_eq_nearest wide size)
  | none =>
      dsimp only
      split
      · rfl
      · split
        · rfl
        · rfl

/-- **A text is read as the float nearest to what it says.** -/
theorem toOption_ofText (wide : 0 < format.fractionBits) (text : List Char) :
    (ofText text : Except TextFault (BinaryFloat format)).toOption =
      (spelling? text).map (Spelling.nearest format) := by
  fun_cases spelling? text with
  | case1 rest =>
      rw [← unsigned?_eq wide, ofText]
      cases (unsigned? true rest : Option (BinaryFloat format)) with
      | none => rfl
      | some x => rfl
  | case2 rest =>
      rw [← unsigned?_eq wide, ofText]
      cases (unsigned? false rest : Option (BinaryFloat format)) with
      | none => rfl
      | some x => rfl
  | case3 text minus plus =>
      rw [← unsigned?_eq wide, ofText]
      · cases (unsigned? false text : Option (BinaryFloat format)) with
        | none => rfl
        | some x => rfl
      · exact minus
      · exact plus

/-! ## Decimals -/

section Digits

variable {whole fraction : List Char} (all : AllDigits whole) (written : whole ≠ [])

include all written

/-- Digits alone are a whole number. -/
theorem decimal?_whole : decimal? whole = some ⟨digitsValue whole, 0⟩ := by
  have span := spanDigits_append all EndsDigits.nil
  rw [List.append_nil] at span
  have some := List.isEmpty_eq_false_iff.mpr written
  simp only [decimal?, span, some, Bool.false_and, Bool.false_eq_true, if_false, List.append_nil]
  rfl

/-- Digits on both sides of a point are a fraction. -/
theorem decimal?_fraction (all' : AllDigits fraction) :
    decimal? (whole ++ '.' :: fraction) =
      some ⟨digitsValue (whole ++ fraction), -(fraction.length : Int)⟩ := by
  have span := spanDigits_append all (@EndsDigits.cons '.' fraction rfl)
  have span' := spanDigits_append all' EndsDigits.nil
  rw [List.append_nil] at span'
  have some := List.isEmpty_eq_false_iff.mpr written
  simp only [decimal?, span, span', some, Bool.false_and, Bool.false_eq_true, if_false]

end Digits

/-- A decimal starts with a digit or with a point. -/
theorem head_of_decimal? {text : List Char} {decimal : Decimal}
    (read : decimal? text = some decimal) :
    ∃ c rest, text = c :: rest ∧ (c.isDigit = true ∨ c = '.') := by
  cases text with
  | nil => cases read
  | cons c rest =>
      refine ⟨c, rest, rfl, Classical.byContradiction fun other => ?_⟩
      obtain ⟨noDigit, noPoint⟩ := not_or.mp other
      have span := spanDigits_append AllDigits.nil
        (@EndsDigits.cons c rest (Bool.eq_false_iff.mpr noDigit))
      rw [List.nil_append] at span
      rw [decimal?, span] at read
      dsimp only at read
      split at read
      · rename_i point
        exact noPoint (List.cons.inj point).1
      · cases read

end BinaryFloat

open BinaryFloat

namespace Decimal

variable (decimal : Decimal)

/-- The decimal as its positional text spells it, with no zeros left to add. -/
def spelled : Decimal :=
  ⟨decimal.digits * tenTo decimal.exponent.toNat, min decimal.exponent 0⟩

/-- **A positional text spells its decimal.** -/
theorem decimal?_positional : decimal? decimal.positional = some decimal.spelled := by
  have parts := decimal.ofDigitChars_parts
  have places := decimal.length_fraction
  rcases Int.lt_or_le decimal.exponent 0 with below | above
  · have exponent : -(decimal.fraction.length : Int) = min decimal.exponent 0 := by omega
    rw [decimal.positional_of_fraction below, decimal?_fraction decimal.allDigits_whole
      decimal.whole_ne_nil decimal.allDigits_fraction, digitsValue_eq, parts, exponent, spelled]
  · have exponent : min decimal.exponent 0 = 0 := by omega
    have none : decimal.fraction = [] := List.eq_nil_of_length_eq_zero (by omega)
    rw [none, List.append_nil] at parts
    rw [decimal.positional_of_whole above, decimal?_whole decimal.allDigits_whole
      decimal.whole_ne_nil, digitsValue_eq, parts, spelled, exponent]

theorem units_spelled (format : BinaryFormat) :
    decimal.spelled.units format = decimal.units format := by
  have none : (min decimal.exponent 0).toNat = 0 := by omega
  rw [units, units, spelled]
  dsimp only
  rw [none, show tenTo 0 = 1 from rfl, Nat.mul_one, Nat.mul_right_comm]

theorem places_spelled : (-decimal.spelled.exponent).toNat = (-decimal.exponent).toNat := by
  change (-(min decimal.exponent 0)).toNat = _
  omega

theorem nearest_spelled (format : BinaryFormat) :
    decimal.spelled.nearest format = decimal.nearest format := by
  rw [nearest, nearest, units_spelled, places_spelled]

end Decimal

/-! ## The text of a float -/

namespace BinaryFloat

variable {format : BinaryFormat}

/-- The decimal of a finite float. -/
def written (x : BinaryFloat format) : Decimal :=
  if x.isZero then ⟨0, 0⟩ else format.shortest .up x.pattern

/-- The text of a finite float is its decimal behind its sign. -/
theorem toText_of_isFinite {x : BinaryFloat format} (finite : x.isFinite = true) :
    x.toText = if x.negative then '-' :: x.written.positional else x.written.positional := by
  have inRange : x.pattern < format.infinity := of_decide_eq_true finite
  have zero : (⟨0, 0⟩ : Decimal).positional = ['0'] := by decide +kernel
  rw [toText, isNaN_eq_false inRange, isInfinite_eq_false inRange, written]
  cases x.isZero with
  | true => simp only [Bool.false_eq_true, if_false, if_true, zero]
  | false => rfl

/-- The decimal of a finite float is nearest to the float. -/
theorem nearest_written (wide : 0 < format.fractionBits) {x : BinaryFloat format}
    (finite : x.isFinite = true) : x.written.nearest format = x.pattern := by
  have inRange : x.pattern < format.infinity := of_decide_eq_true finite
  rw [written, isZero]
  split
  · rename_i zero
    rw [eq_of_beq zero]
    exact BinaryFormat.nearest_of_zero wide rfl
  · rename_i nonzero
    have positive : 0 < x.pattern :=
      Nat.pos_of_ne_zero fun zero => nonzero (beq_iff_eq.mpr zero)
    exact (BinaryFormat.round_eq_iff wide (tenTo_pos _) inRange).mpr
      (BinaryFormat.reads_shortest .up positive x.pattern_lt).1

/-- **The text of a finite float says its decimal.** -/
theorem spelling?_toText {x : BinaryFloat format} (finite : x.isFinite = true) :
    spelling? x.toText = some (.decimal x.negative x.written.spelled) := by
  have read := x.written.decimal?_positional
  have unsigned (negative : Bool) : Spelling.unsigned? negative x.written.positional =
      some (.decimal negative x.written.spelled) := by
    rw [Spelling.unsigned?, read]
  rw [toText_of_isFinite finite]
  cases x.negative with
  | true => exact unsigned true
  | false =>
      obtain ⟨c, rest, text, digit⟩ := x.written.exists_positional_eq_cons
      have other {sign : Char} (noDigit : sign.isDigit = false) (behind : List Char)
          (same : x.written.positional = sign :: behind) : False := by
        rw [text] at same
        rw [(List.cons.inj same).1, noDigit] at digit
        exact Bool.false_ne_true digit
      rw [if_neg Bool.false_ne_true, spelling?.eq_3 _ (other rfl) (other rfl)]
      exact unsigned false

end BinaryFloat

end NamedConstants
