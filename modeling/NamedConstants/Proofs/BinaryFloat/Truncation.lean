import NamedConstants.Proofs.BinaryFloat.Conversion

/-!
# Whole parts

The whole part of a finite number is its quotient by one, cut towards zero
(`truncate_eq_tdiv`), and it stays the same when the number is widened (`truncate_cast`).
Integers are rounded to floats in their order (`ofInt_le_ofInt`): a bound that is
compared as a float may let more integers through than it has below it, and never
stops one that it has.
-/

set_option autoImplicit false

namespace NamedConstants.BinaryFloat

open BinaryFormat (Embeds)

variable {format target : BinaryFormat}

/-! ## Whole parts -/

/-- **The whole part is the number of units, divided towards zero by the units of one.** -/
theorem truncate_eq_tdiv (x : BinaryFloat format) :
    x.truncate = x.toUnits.tdiv (twoTo format.unitExponent : Nat) := by
  unfold truncate toUnits
  split
  · rw [Int.neg_tdiv, ← Int.ofNat_tdiv]
  · rw [← Int.ofNat_tdiv]

/-- A finite number that is widened keeps its whole part. -/
theorem truncate_cast {shift : Nat} (embeds : Embeds format target shift)
    (wide : 0 < format.fractionBits) {x : BinaryFloat format} (finite : x.isFinite = true) :
    (x.cast : BinaryFloat target).truncate = x.truncate := by
  obtain ⟨image, inRange, size, converted⟩ := exists_cast_eq embeds wide (of_decide_eq_true finite)
  have whole : target.units image / twoTo target.unitExponent =
      format.units x.pattern / twoTo format.unitExponent := by
    rw [size, embeds.unit, twoTo_add, Nat.mul_div_mul_right _ _ (twoTo_pos shift)]
  rw [converted, truncate, truncate, pattern_ofPattern_of_finite inRange, whole]
  rfl

/-- A number is finite in a wider format exactly if it is finite. -/
theorem isFinite_cast {shift : Nat} (embeds : Embeds format target shift)
    (wide : 0 < format.fractionBits) (x : BinaryFloat format) :
    (x.cast : BinaryFloat target).isFinite = x.isFinite := by
  rcases x.sorts with nan | infinite | finite
  · have beyond : (notANumber x.negative : BinaryFloat target).isNaN = true :=
      isNaN_notANumber (Nat.lt_of_lt_of_le wide embeds.fraction) _
    rw [cast_of_isNaN nan, isFinite_of_isNaN beyond, isFinite_of_isNaN nan]
  · rw [infinite, cast_infinity, isFinite_infinity, isFinite_infinity]
  · obtain ⟨image, inRange, -, converted⟩ := exists_cast_eq embeds wide finite
    rw [converted, isFinite, isFinite, pattern_ofPattern_of_finite inRange, decide_eq_true inRange,
      decide_eq_true finite]

/-! ## The order of integers -/

theorem pattern_ofInt (value : Int) :
    (ofInt value : BinaryFloat format).pattern =
      format.round (value.natAbs * twoTo format.unitExponent) 1 :=
  pattern_ofRatio _ _ 1

theorem isNaN_ofInt (value : Int) : (ofInt value : BinaryFloat format).isNaN = false := by
  have bounded : (ofInt value : BinaryFloat format).pattern ≤ format.infinity := by
    rw [pattern_ofInt]
    exact Nat.min_le_right _ _
  exact decide_eq_false (Nat.not_lt.mpr bounded)

/-- A larger integer without its sign is rounded to a larger size. -/
theorem units_ofInt_le (wide : 0 < format.fractionBits) {first second : Int}
    (le : first.natAbs ≤ second.natAbs) :
    format.units (ofInt first : BinaryFloat format).pattern ≤
      format.units (ofInt second : BinaryFloat format).pattern := by
  rw [pattern_ofInt, pattern_ofInt]
  exact format.units_le_units
    (BinaryFormat.round_le_round wide Nat.one_pos (Nat.mul_le_mul_right _ le))

/-- **Integers are rounded in their order.** -/
theorem ofInt_le_ofInt (wide : 0 < format.fractionBits) {first second : Int}
    (le : first ≤ second) : (ofInt first : BinaryFloat format).le (ofInt second) = true := by
  have sign (value : Int) : (ofInt value : BinaryFloat format).negative = decide (value < 0) := rfl
  have ordered : (ofInt first : BinaryFloat format).toUnits ≤
      (ofInt second : BinaryFloat format).toUnits := by
    rw [toUnits, toUnits, sign, sign]
    rcases Int.lt_or_le first 0 with negative | positive
    · rw [decide_eq_true negative, if_pos rfl]
      rcases Int.lt_or_le second 0 with negative' | positive'
      · rw [decide_eq_true negative', if_pos rfl]
        have sizes := units_ofInt_le wide (show second.natAbs ≤ first.natAbs by omega)
        omega
      · rw [decide_eq_false (Int.not_lt.mpr positive'), if_neg Bool.false_ne_true]
        omega
    · rw [decide_eq_false (Int.not_lt.mpr positive),
        decide_eq_false (Int.not_lt.mpr (Int.le_trans positive le)), if_neg Bool.false_ne_true,
        if_neg Bool.false_ne_true]
      exact Int.ofNat_le.mpr (units_ofInt_le wide (show first.natAbs ≤ second.natAbs by omega))
  rw [BinaryFloat.le, isNaN_ofInt, isNaN_ofInt, decide_eq_true ordered]
  rfl

end NamedConstants.BinaryFloat
