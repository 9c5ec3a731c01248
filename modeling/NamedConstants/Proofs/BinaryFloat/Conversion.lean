import NamedConstants.Proofs.BinaryFloat.Rounding
import NamedConstants.Scalar.Coercion

/-!
# Conversion between formats

A number that another format has too is converted without loss (`cast_eq`). The
format of 64 bits has every number of the format of 32 bits (`embeds_double`), so
a number that is widened comes back when it is narrowed again, and it never
exceeds the range that is checked on the way (`narrow_widen`). Infinity stays
infinity, and what is not a number stays none.
-/

set_option autoImplicit false

namespace NamedConstants

namespace BinaryFormat

variable {format target : BinaryFormat}

/-! ## Formats within formats -/

/-- The last exponent field is the one of infinity. -/
theorem infinity_add (format : BinaryFormat) :
    format.infinity + twoTo format.fractionBits = twoTo format.patternBits := by
  rw [infinity, patternBits, twoTo_add, ← Nat.succ_mul]
  exact congrArg (· * _) (Nat.sub_add_cancel (twoTo_pos _))

theorem infinity_lt (format : BinaryFormat) : format.infinity < twoTo format.patternBits := by
  rw [← infinity_add]
  exact Nat.lt_add_of_pos_right (twoTo_pos _)

/-- A size is a significand scaled by a power of two. -/
theorem exists_significand (format : BinaryFormat) (pattern : Nat) :
    ∃ significand < twoTo (format.fractionBits + 1), ∃ shift,
      format.units pattern = significand * twoTo shift := by
  rw [twoTo_succ]
  induction pattern using format.pattern_cases with
  | subnormal fraction below =>
      exact ⟨fraction, by omega, 0, (units_subnormal below).trans (Nat.mul_one _).symm⟩
  | normal shift fraction below =>
      exact ⟨twoTo format.fractionBits + fraction, by omega, shift, units_normal below shift⟩

/-- A unit of the format is a whole number of units of the target, whose
significands are as wide and whose range is as large. -/
structure Embeds (format target : BinaryFormat) (shift : Nat) : Prop where
  fraction : format.fractionBits ≤ target.fractionBits
  unit : target.unitExponent = format.unitExponent + shift
  range : format.units format.infinity * twoTo shift ≤ target.units target.infinity

theorem embeds_self (format : BinaryFormat) : Embeds format format 0 where
  fraction := Nat.le_refl _
  unit := rfl
  range := Nat.le_of_eq (Nat.mul_one _)

theorem single_embeds_double : Embeds single double 925 where
  fraction := by decide
  unit := rfl
  range := by decide +kernel

namespace Embeds

variable {shift : Nat} (embeds : Embeds format target shift)

include embeds

/-- The target has a pattern of the same size, up to infinity. -/
theorem exists_image {pattern : Nat} (inRange : pattern ≤ format.infinity) :
    ∃ image ≤ target.infinity, target.units image = format.units pattern * twoTo shift := by
  obtain ⟨significand, fits, scale, size⟩ := format.exists_significand pattern
  have wider : significand < twoTo (target.fractionBits + 1) :=
    Nat.lt_of_lt_of_le fits (twoTo_le (Nat.succ_le_succ embeds.fraction))
  obtain ⟨image, found⟩ := target.exists_units_eq wider (scale + shift)
  have same : target.units image = format.units pattern * twoTo shift := by
    rw [found, size, twoTo_add, Nat.mul_assoc]
  refine ⟨image, Nat.le_of_not_lt fun beyond => ?_, same⟩
  have larger := target.units_lt_units beyond
  have smaller := Nat.mul_le_mul_right (twoTo shift) (format.units_le_units inRange)
  have range := embeds.range
  omega

/-- The pattern of a finite number is finite. -/
theorem exists_units_eq {pattern : Nat} (finite : pattern < format.infinity) :
    ∃ image < target.infinity, target.units image = format.units pattern * twoTo shift := by
  obtain ⟨image, -, same⟩ := embeds.exists_image (Nat.le_of_lt finite)
  refine ⟨image, lt_of_units_lt (Nat.lt_of_lt_of_le ?_ embeds.range), same⟩
  rw [same]
  exact Nat.mul_lt_mul_of_pos_right (format.units_lt_units finite) (twoTo_pos shift)

end Embeds

end BinaryFormat

namespace FloatKind

theorem fractionBits_pos (kind : FloatKind) : 0 < kind.format.fractionBits := by
  cases kind <;> decide

/-- Every number of either precision is one of 64 bits. -/
theorem embeds_double (kind : FloatKind) :
    ∃ shift, BinaryFormat.Embeds kind.format .double shift := by
  cases kind with
  | single => exact ⟨925, BinaryFormat.single_embeds_double⟩
  | double => exact ⟨0, BinaryFormat.embeds_self _⟩

end FloatKind

namespace BinaryFloat

open BinaryFormat (Embeds)

variable {format target : BinaryFormat}

/-! ## The three sorts of numbers -/

theorem ofPattern_pattern (x : BinaryFloat format) : ofPattern x.negative x.pattern = x := by
  obtain ⟨negative, pattern, below⟩ := x
  simp only [ofPattern, Nat.mod_eq_of_lt below]

theorem pattern_ofPattern_of_finite {pattern : Nat} (finite : pattern < format.infinity)
    (negative : Bool) : (ofPattern negative pattern : BinaryFloat format).pattern = pattern :=
  Nat.mod_eq_of_lt (Nat.lt_trans finite format.infinity_lt)

theorem pattern_ofRatio (negative : Bool) (numerator denominator : Nat) :
    (ofRatio negative numerator denominator : BinaryFloat format).pattern =
      format.round numerator denominator :=
  Nat.mod_eq_of_lt (Nat.lt_of_le_of_lt (format.round_le_infinity _ _) format.infinity_lt)

@[simp] theorem pattern_infinity (negative : Bool) :
    (infinity negative : BinaryFloat format).pattern = format.infinity :=
  Nat.mod_eq_of_lt format.infinity_lt

@[simp] theorem isNaN_infinity (negative : Bool) :
    (infinity negative : BinaryFloat format).isNaN = false := by
  rw [isNaN, pattern_infinity]
  exact decide_eq_false (Nat.lt_irrefl _)

@[simp] theorem isInfinite_infinity (negative : Bool) :
    (infinity negative : BinaryFloat format).isInfinite = true := by
  rw [isInfinite, pattern_infinity]
  exact beq_iff_eq.mpr rfl

@[simp] theorem isFinite_infinity (negative : Bool) :
    (infinity negative : BinaryFloat format).isFinite = false := by
  rw [isFinite, pattern_infinity]
  exact decide_eq_false (Nat.lt_irrefl _)

theorem isNaN_notANumber (wide : 0 < format.fractionBits) (negative : Bool) :
    (notANumber negative : BinaryFloat format).isNaN = true := by
  have half : twoTo (format.fractionBits - 1) < twoTo format.fractionBits :=
    Nat.pow_lt_pow_right (by decide) (Nat.sub_lt wide Nat.one_pos)
  have below : format.infinity + twoTo (format.fractionBits - 1) < twoTo format.patternBits := by
    rw [← format.infinity_add]
    exact Nat.add_lt_add_left half _
  have pattern : (notANumber negative : BinaryFloat format).pattern =
      format.infinity + twoTo (format.fractionBits - 1) := Nat.mod_eq_of_lt below
  rw [isNaN, pattern]
  exact decide_eq_true (Nat.lt_add_of_pos_right (twoTo_pos _))

/-- What is not a number is not finite. -/
theorem isFinite_of_isNaN {x : BinaryFloat format} (nan : x.isNaN = true) : x.isFinite = false :=
  decide_eq_false (Nat.lt_asymm (of_decide_eq_true nan))

theorem isInfinite_of_isNaN {x : BinaryFloat format} (nan : x.isNaN = true) :
    x.isInfinite = false :=
  beq_eq_false_iff_ne.mpr (Nat.ne_of_gt (of_decide_eq_true nan))

theorem isNaN_eq_false {x : BinaryFloat format} (finite : x.pattern < format.infinity) :
    x.isNaN = false :=
  decide_eq_false (Nat.lt_asymm finite)

theorem isInfinite_eq_false {x : BinaryFloat format} (finite : x.pattern < format.infinity) :
    x.isInfinite = false :=
  beq_eq_false_iff_ne.mpr (Nat.ne_of_lt finite)

/-- A number is none, or an infinity, or finite. -/
theorem sorts (x : BinaryFloat format) :
    x.isNaN = true ∨ x = infinity x.negative ∨ x.pattern < format.infinity := by
  rcases Nat.lt_trichotomy x.pattern format.infinity with finite | infinite | beyond
  · exact Or.inr (Or.inr finite)
  · refine Or.inr (Or.inl ?_)
    rw [infinity, ← infinite, ofPattern_pattern]
  · exact Or.inl (decide_eq_true beyond)

/-- Numbers without a sign are ordered by their size. -/
theorem le_of_units_le {x y : BinaryFloat format} (finite : x.pattern < format.infinity)
    (finite' : y.pattern < format.infinity) (positive : x.negative = false)
    (positive' : y.negative = false) (le : format.units x.pattern ≤ format.units y.pattern) :
    x.le y = true := by
  simp only [BinaryFloat.le, isNaN_eq_false finite, isNaN_eq_false finite', toUnits, positive,
    positive', Bool.not_false, Bool.true_and, Bool.false_eq_true, if_false]
  exact decide_eq_true (Int.ofNat_le.mpr le)

/-! ## Conversion -/

theorem cast_of_isNaN {x : BinaryFloat format} (nan : x.isNaN = true) :
    (x.cast : BinaryFloat target) = notANumber x.negative :=
  if_pos nan

theorem cast_infinity (negative : Bool) :
    ((infinity negative : BinaryFloat format).cast : BinaryFloat target) = infinity negative := by
  rw [cast, isNaN_infinity, isInfinite_infinity, if_neg Bool.false_ne_true, if_pos rfl]
  rfl

/-- A finite number is rounded to the target. -/
theorem cast_of_finite {x : BinaryFloat format} (finite : x.pattern < format.infinity) :
    (x.cast : BinaryFloat target) =
      ofPattern x.negative (target.round (format.units x.pattern * twoTo target.unitExponent)
        (twoTo format.unitExponent)) := by
  rw [cast, isNaN_eq_false finite, isInfinite_eq_false finite, if_neg Bool.false_ne_true,
    if_neg Bool.false_ne_true, ofRatio]

/-- **A number is converted to the one of the same size, if the target has it.**
-/
theorem cast_eq (wide : 0 < target.fractionBits) {x : BinaryFloat format}
    (finite : x.pattern < format.infinity) {image : Nat} (finite' : image < target.infinity)
    (same : target.units image * twoTo format.unitExponent =
      format.units x.pattern * twoTo target.unitExponent) :
    (x.cast : BinaryFloat target) = ofPattern x.negative image := by
  rw [cast_of_finite finite, ← same, BinaryFormat.round_units wide (twoTo_pos _) finite']

section Embedding

variable {shift : Nat} (embeds : Embeds format target shift) (wide : 0 < format.fractionBits)

include embeds wide

/-- A finite number of an embedded format keeps its sign and its size. -/
theorem exists_cast_eq {x : BinaryFloat format} (finite : x.pattern < format.infinity) :
    ∃ image < target.infinity, target.units image = format.units x.pattern * twoTo shift ∧
      (x.cast : BinaryFloat target) = ofPattern x.negative image := by
  obtain ⟨image, finite', size⟩ := embeds.exists_units_eq finite
  refine ⟨image, finite', size, cast_eq (Nat.lt_of_lt_of_le wide embeds.fraction) finite finite' ?_⟩
  rw [size, embeds.unit, twoTo_add, Nat.mul_assoc, Nat.mul_comm (twoTo shift)]

/-- **A number of an embedded format comes back from the target.** -/
theorem cast_cast {x : BinaryFloat format} (number : x.isNaN = false) :
    ((x.cast : BinaryFloat target).cast : BinaryFloat format) = x := by
  rcases x.sorts with nan | infinite | finite
  · exact absurd (number.symm.trans nan) Bool.false_ne_true
  · rw [infinite, cast_infinity, cast_infinity]
  · obtain ⟨image, finite', size, converted⟩ := exists_cast_eq embeds wide finite
    have pattern := pattern_ofPattern_of_finite finite' x.negative
    rw [converted]
    refine (cast_eq wide (pattern.symm ▸ finite') finite ?_).trans x.ofPattern_pattern
    rw [pattern, size, embeds.unit, twoTo_add, Nat.mul_assoc, Nat.mul_comm (twoTo shift)]

/-- A number of the target is converted to the pattern in whose interval it lies.
-/
theorem cast_of_holds {pattern image : Nat} (finite : pattern < format.infinity)
    (finite' : image < target.infinity)
    (holds : (format.readBack pattern).Holds (target.units image) (twoTo shift))
    (negative : Bool) :
    ((ofPattern negative image : BinaryFloat target).cast : BinaryFloat format) =
      ofPattern negative pattern := by
  have own := pattern_ofPattern_of_finite finite' negative
  rw [cast_of_finite (own.symm ▸ finite'), own, embeds.unit, twoTo_add,
    Nat.mul_comm (twoTo format.unitExponent),
    BinaryFormat.round_mul_right wide (twoTo_pos shift) (twoTo_pos _),
    (BinaryFormat.round_eq_iff wide (twoTo_pos shift) finite).mpr holds]
  rfl

theorem isNaN_cast {x : BinaryFloat format} (number : x.isNaN = false) :
    (x.cast : BinaryFloat target).isNaN = false := by
  rcases x.sorts with nan | infinite | finite
  · exact absurd (number.symm.trans nan) Bool.false_ne_true
  · rw [infinite, cast_infinity, isNaN_infinity]
  · obtain ⟨image, inRange, -, converted⟩ := exists_cast_eq embeds wide finite
    rw [converted]
    exact isNaN_eq_false ((pattern_ofPattern_of_finite inRange _).symm ▸ inRange)

/-- A larger positive number stays larger. -/
theorem le_abs_cast {x y : BinaryFloat format} (le : x.pattern ≤ y.pattern)
    (finite : y.pattern < format.infinity) (positive : y.negative = false) :
    (x.cast : BinaryFloat target).abs.le y.cast = true := by
  obtain ⟨first, inRange, size, converted⟩ :=
    exists_cast_eq embeds wide (Nat.lt_of_le_of_lt le finite)
  obtain ⟨second, inRange', size', converted'⟩ := exists_cast_eq embeds wide finite
  have ordered : target.units first ≤ target.units second := by
    rw [size, size']
    exact Nat.mul_le_mul_right _ (format.units_le_units le)
  have pattern := pattern_ofPattern_of_finite inRange x.negative
  have pattern' := pattern_ofPattern_of_finite inRange' false
  rw [converted, converted', positive]
  refine le_of_units_le (pattern.symm ▸ inRange) (pattern'.symm ▸ inRange') rfl rfl ?_
  rw [pattern']
  exact pattern.symm ▸ ordered

end Embedding

/-- A number of a format converts to itself. -/
theorem cast_self (wide : 0 < format.fractionBits) {x : BinaryFloat format}
    (number : x.isNaN = false) : (x.cast : BinaryFloat format) = x := by
  rcases x.sorts with nan | infinite | finite
  · exact absurd (number.symm.trans nan) Bool.false_ne_true
  · rw [infinite, cast_infinity]
  · rw [cast_eq wide finite finite rfl, ofPattern_pattern]

end BinaryFloat

/-! ## Widening and narrowing -/

open BinaryFloat

/-- A widened number of 32 bits is within the range of 32 bits. -/
theorem widened_le_largest (x : Single) :
    ((x.cast : Double).isFinite && !(x.cast : Double).abs.le (largest : Single).cast) = false := by
  rcases x.sorts with nan | infinite | finite
  · have beyond : (notANumber x.negative : Double).isNaN = true := isNaN_notANumber (by decide) _
    rw [cast_of_isNaN nan, isFinite_of_isNaN beyond, Bool.false_and]
  · rw [infinite, cast_infinity, isFinite_infinity, Bool.false_and]
  · have least : x.pattern ≤ (largest : Single).pattern := Nat.le_of_lt_succ finite
    rw [le_abs_cast BinaryFormat.single_embeds_double (by decide) least (by decide) rfl,
      Bool.not_true, Bool.and_false]

/-- **A widened float of either precision is narrowed without an overflow.** Every number comes
back bit by bit, and what is not a number is still none. -/
theorem narrow_widen {kind : FloatKind} (x : BinaryFloat kind.format) :
    ∃ back : BinaryFloat kind.format,
      narrow (x.cast : Double) kind = .ok (.float back) ∧
        (x.isNaN = false → back = x) ∧ (x.isNaN = true → back.isNaN = true) := by
  obtain ⟨shift, embeds⟩ := kind.embeds_double
  have wide := kind.fractionBits_pos
  have quiet : (notANumber x.negative : Double).isNaN = true := isNaN_notANumber (by decide) _
  cases kind with
  | single =>
      refine ⟨(x.cast : Double).cast, ?_, cast_cast embeds wide, fun nan => ?_⟩
      · exact if_neg (Bool.eq_false_iff.mp (widened_le_largest x))
      · rw [cast_of_isNaN nan, cast_of_isNaN quiet]
        exact isNaN_notANumber wide _
  | double =>
      refine ⟨x.cast, rfl, cast_self wide, fun nan => ?_⟩
      rw [cast_of_isNaN nan]
      exact isNaN_notANumber wide _

/-- A widened float that passed through 64 bits once more is narrowed alike. -/
theorem narrow_cast {kind : FloatKind} (x : BinaryFloat kind.format) :
    ∃ back : BinaryFloat kind.format,
      narrow ((x.cast : Double).cast : Double) kind = .ok (.float back) ∧
        (x.isNaN = false → back = x) ∧ (x.isNaN = true → back.isNaN = true) := by
  obtain ⟨shift, embeds⟩ := kind.embeds_double
  have again : ((x.cast : Double).cast : Double) = x.cast := by
    cases nan : x.isNaN with
    | false => exact cast_self (by decide) (isNaN_cast embeds kind.fractionBits_pos nan)
    | true =>
        have quiet : (notANumber x.negative : Double).isNaN = true := isNaN_notANumber (by decide) _
        rw [cast_of_isNaN nan, cast_of_isNaN quiet]
        rfl
  rw [again]
  exact narrow_widen x

end NamedConstants
