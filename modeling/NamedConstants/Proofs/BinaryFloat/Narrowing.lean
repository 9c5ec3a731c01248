import NamedConstants.Proofs.BinaryFloat.DoubleRounding
import NamedConstants.Proofs.BinaryFloat.Truncation
import NamedConstants.Proofs.Result

/-!
# Narrowing

A quotient that is rounded to a wider format and narrowed afterwards is the number to which
it is rounded at once unless the first step moves it across a midpoint
(`cast_ofRatio_eq_iff`). Narrowing a float of 64 bits is refused exactly if it is finite and
exceeds every finite number of 32 bits (`narrow_single`). A conversion that does not
refuse rounds some of these numbers down to the largest one, and the others to infinity
(`isInfinite_cast_iff`).
-/

set_option autoImplicit false

namespace NamedConstants

namespace BinaryFormat

variable {format : BinaryFormat}

/-- A quotient is rounded to infinity from halfway between the largest finite number and
infinity. -/
theorem round_eq_infinity_iff (wide : 0 < format.fractionBits)
    (odd : (format.infinity - 1) % 2 = 1) {numerator denominator : Nat}
    (positive : 0 < denominator) :
    format.round numerator denominator = format.infinity ↔
      format.middle (format.infinity - 1) * denominator ≤ 2 * numerator := by
  have finite : format.infinity - 1 < format.infinity := by omega
  constructor
  · intro infinite
    refine Nat.le_of_not_lt fun below => ?_
    have largest := round_le_of_lt_middle wide positive below
    omega
  · intro beyond
    rcases Nat.lt_or_eq_of_le beyond with above | onto
    · have larger := lt_round_of_middle_lt wide positive finite above
      have most := format.round_le_infinity numerator denominator
      omega
    · have tie := round_middle wide positive finite onto.symm
      omega

end BinaryFormat

namespace BinaryFloat

open BinaryFormat (Embeds MovesAcross)

variable {format target : BinaryFormat}

theorem pattern_ofPattern_of_le {pattern : Nat} (inRange : pattern ≤ format.infinity)
    (negative : Bool) : (ofPattern negative pattern : BinaryFloat format).pattern = pattern :=
  Nat.mod_eq_of_lt (Nat.lt_of_le_of_lt inRange format.infinity_lt)

theorem isInfinite_ofPattern {pattern : Nat} (inRange : pattern ≤ format.infinity)
    (negative : Bool) :
    (ofPattern negative pattern : BinaryFloat format).isInfinite = true ↔
      pattern = format.infinity := by
  rw [isInfinite, pattern_ofPattern_of_le inRange, beq_iff_eq]

theorem ofPattern_inj {negative : Bool} {first second : Nat} (inRange : first ≤ format.infinity)
    (inRange' : second ≤ format.infinity) :
    (ofPattern negative first : BinaryFloat format) = ofPattern negative second ↔
      first = second := by
  constructor
  · intro same
    have patterns := congrArg pattern same
    rwa [pattern_ofPattern_of_le inRange, pattern_ofPattern_of_le inRange'] at patterns
  · rintro rfl
    rfl

section Narrow

variable {shift : Nat} (embeds : Embeds format target shift) (wide : 0 < format.fractionBits)

include embeds wide

/-- A number of the target, infinity included, is rounded to the format. -/
theorem cast_ofPattern {image : Nat} (inRange : image ≤ target.infinity) (negative : Bool) :
    ((ofPattern negative image : BinaryFloat target).cast : BinaryFloat format) =
      ofPattern negative (format.round (target.units image) (twoTo shift)) := by
  rcases Nat.lt_or_eq_of_le inRange with finite | rfl
  · have own := pattern_ofPattern_of_finite finite negative
    rw [cast_of_finite (own.symm ▸ finite), own, embeds.unit, twoTo_add,
      Nat.mul_comm (twoTo format.unitExponent),
      BinaryFormat.round_mul_right wide (twoTo_pos shift) (twoTo_pos _)]
    rfl
  · rw [← infinity, cast_infinity, infinity,
      BinaryFormat.round_eq_infinity wide (twoTo_pos shift) embeds.range]

/-- A number is infinite in a wider format exactly if it is infinite. -/
theorem isInfinite_cast (x : BinaryFloat format) :
    (x.cast : BinaryFloat target).isInfinite = x.isInfinite := by
  rcases x.sorts with nan | infinite | finite
  · have quiet := isNaN_notANumber (Nat.lt_of_lt_of_le wide embeds.fraction) x.negative
    rw [cast_of_isNaN nan, isInfinite_of_isNaN nan, isInfinite_of_isNaN quiet]
  · rw [infinite, cast_infinity, isInfinite_infinity, isInfinite_infinity]
  · obtain ⟨image, inRange, -, converted⟩ := exists_cast_eq embeds wide finite
    rw [converted, isInfinite_eq_false finite, isInfinite_eq_false]
    exact (pattern_ofPattern_of_finite inRange _).symm ▸ inRange

/-- **A number that is widened first is converted alike.** -/
theorem cast_cast_eq_cast {narrower : BinaryFormat} (wide' : 0 < narrower.fractionBits)
    (x : BinaryFloat format) :
    ((x.cast : BinaryFloat target).cast : BinaryFloat narrower) = x.cast := by
  rcases x.sorts with nan | infinite | finite
  · have quiet := isNaN_notANumber (Nat.lt_of_lt_of_le wide embeds.fraction) x.negative
    rw [cast_of_isNaN nan, cast_of_isNaN quiet, cast_of_isNaN nan]
    rfl
  · rw [infinite, cast_infinity, cast_infinity, cast_infinity]
  · obtain ⟨image, inRange, size, converted⟩ := exists_cast_eq embeds wide finite
    have own := pattern_ofPattern_of_finite inRange x.negative
    rw [converted, cast_of_finite (own.symm ▸ inRange), own, cast_of_finite finite, size,
      embeds.unit, twoTo_add, Nat.mul_right_comm,
      BinaryFormat.round_mul_right wide' (twoTo_pos _) (twoTo_pos shift)]
    rfl

end Narrow

/-- **A quotient that is rounded twice is what it is rounded to at once unless it is moved
across a midpoint.** -/
theorem cast_ofRatio_eq_iff {shift : Nat} (embeds : Embeds format target (shift + 1))
    (wider : format.fractionBits < target.fractionBits) (wide : 0 < format.fractionBits)
    (negative : Bool) {numerator denominator : Nat} (positive : 0 < denominator) :
    ((ofRatio negative (numerator * twoTo (shift + 1)) denominator : BinaryFloat target).cast :
        BinaryFloat format) = ofRatio negative numerator denominator ↔
      ¬MovesAcross format target shift numerator denominator := by
  rw [ofRatio, ofRatio, cast_ofPattern embeds wide (target.round_le_infinity _ _),
    ofPattern_inj (format.round_le_infinity _ _) (format.round_le_infinity _ _)]
  exact BinaryFormat.round_round_eq_iff embeds wider wide positive

end BinaryFloat

theorem Scalar.some_float_inj {precision : FloatKind} {x y : BinaryFloat precision.format} :
    some (Scalar.float x) = some (Scalar.float y) ↔ x = y := by
  constructor
  · rintro ⟨⟩
    rfl
  · rintro rfl
    rfl

/-! ## From 64 bits to 32 -/

open BinaryFloat BinaryFormat

/-- A finite number that exceeds the largest finite one of 32 bits. -/
def BinaryFloat.ExceedsSingle (x : Double) : Prop :=
  x.pattern < double.infinity ∧
    single.units (single.infinity - 1) * twoTo 925 < double.units x.pattern

instance (x : Double) : Decidable x.ExceedsSingle :=
  inferInstanceAs (Decidable (_ ∧ _))

theorem exceedsSingle_ofPattern {pattern : Nat} (inRange : pattern ≤ double.infinity)
    (negative : Bool) : (ofPattern negative pattern : Double).ExceedsSingle ↔
      pattern < double.infinity ∧
        single.units (single.infinity - 1) * twoTo 925 < double.units pattern := by
  rw [ExceedsSingle, pattern_ofPattern_of_le inRange]

/-- A finite number that is not nearer to the largest finite one of 32 bits than to the number
that would follow it. -/
def BinaryFloat.LeavesSingle (x : Double) : Prop :=
  x.pattern < double.infinity ∧
    single.middle (single.infinity - 1) * twoTo 924 ≤ double.units x.pattern

theorem units_largest : double.units ((largest : Single).cast : Double).pattern =
    single.units (single.infinity - 1) * twoTo 925 := by
  obtain ⟨image, inRange, size, converted⟩ :=
    exists_cast_eq single_embeds_double (by decide) (x := (largest : Single)) (by decide)
  have own : (largest : Single).pattern = single.infinity - 1 :=
    pattern_ofPattern_of_finite (by decide) false
  rw [converted, pattern_ofPattern_of_finite inRange, size, own]

/-- Finite numbers without a sign are ordered like their sizes. -/
theorem abs_le_iff {x y : Double} (finite : x.pattern < double.infinity) (number : y.isNaN = false)
    (positive : y.negative = false) :
    x.abs.le y = true ↔ double.units x.pattern ≤ double.units y.pattern := by
  have number' : x.abs.isNaN = false := isNaN_eq_false (x := x.abs) finite
  have sign : x.abs.negative = false := rfl
  rw [BinaryFloat.le, number, number', BinaryFloat.toUnits, BinaryFloat.toUnits, sign, positive,
    Bool.not_false, Bool.true_and, Bool.true_and, decide_eq_true_eq, if_neg Bool.false_ne_true,
    if_neg Bool.false_ne_true]
  exact Int.ofNat_le

/-- The check of the range stops the numbers that exceed it. -/
theorem exceeds_iff (x : Double) :
    (x.isFinite && !x.abs.le (largest : Single).cast) = true ↔ x.ExceedsSingle := by
  have number : ((largest : Single).cast : Double).isNaN = false := by decide +kernel
  rw [Bool.and_eq_true, ExceedsSingle, isFinite, decide_eq_true_eq]
  refine and_congr_right fun finite => ?_
  rw [Bool.not_eq_true', ← Bool.not_eq_true, abs_le_iff finite number rfl, units_largest,
    Nat.not_le]

/-- **Narrowing to 32 bits is refused exactly beyond the finite numbers.** -/
theorem narrow_single (x : Double) :
    (narrow x .single).toOption =
      if x.ExceedsSingle then none else some (@Scalar.float .single (x.cast : Single)) := by
  rw [narrow]
  split
  · rename_i beyond
    rw [if_pos ((exceeds_iff x).mp beyond)]
    rfl
  · rename_i within
    rw [if_neg (mt (exceeds_iff x).mpr within)]
    rfl

/-- **A conversion to 32 bits gives infinity for infinity and for the numbers that leave the
range.** -/
theorem isInfinite_cast_iff (x : Double) :
    (x.cast : Single).isInfinite = true ↔ x.isInfinite = true ∨ x.LeavesSingle := by
  rcases x.sorts with nan | infinite | finite
  · have beyond := of_decide_eq_true nan
    have quiet : (notANumber x.negative : Single).isNaN = true := isNaN_notANumber (by decide) _
    rw [cast_of_isNaN nan, isInfinite_of_isNaN quiet, isInfinite_of_isNaN nan]
    exact iff_of_false Bool.false_ne_true
      (not_or.mpr ⟨Bool.false_ne_true, fun leaves => Nat.lt_asymm beyond leaves.1⟩)
  · rw [infinite, cast_infinity, isInfinite_infinity, isInfinite_infinity]
    exact ⟨fun _ => Or.inl rfl, fun _ => rfl⟩
  · have inRange := Nat.le_of_lt finite
    have embeds : Embeds single double (924 + 1) := single_embeds_double
    have rounded := cast_ofPattern embeds (by decide) inRange x.negative
    rw [x.ofPattern_pattern] at rounded
    rw [rounded, isInfinite_ofPattern (single.round_le_infinity _ _),
      round_eq_infinity_iff (by decide) (by decide +kernel) (twoTo_pos _), twoTo_succ,
      Nat.mul_left_comm, isInfinite_eq_false finite, LeavesSingle]
    generalize twoTo 924 = factor
    constructor
    · intro beyond
      exact Or.inr ⟨finite, by omega⟩
    · rintro (⟨⟨⟩⟩ | ⟨-, beyond⟩)
      omega

section Range

variable {x : Double}

/-- What is rounded to infinity exceeds the range. -/
theorem exceeds_of_leaves (leaves : x.LeavesSingle) : x.ExceedsSingle := by
  obtain ⟨finite, far⟩ := leaves
  have growth := single.units_lt_units (show single.infinity - 1 < single.infinity - 1 + 1 by omega)
  have unit : twoTo 925 = 2 * twoTo 924 := by decide +kernel
  refine ⟨finite, Nat.lt_of_lt_of_le ?_ far⟩
  rw [unit, ← Nat.mul_assoc, Nat.mul_comm _ 2, middle]
  exact Nat.mul_lt_mul_of_pos_right (by omega) (twoTo_pos 924)

/-- **Narrowing gives infinity for infinity only.** -/
theorem isInfinite_of_narrow {precision : FloatKind} {y : BinaryFloat precision.format}
    (narrowed : narrow x precision = .ok (.float y)) : y.isInfinite = x.isInfinite := by
  cases precision with
  | double =>
      cases narrowed
      rfl
  | single =>
      have found := toOption_eq_some_iff.mpr narrowed
      rw [narrow_single] at found
      split at found
      · cases found
      · rename_i within
        cases found
        refine Bool.eq_iff_iff.mpr ((isInfinite_cast_iff x).trans (or_iff_left ?_))
        exact fun leaves => within (exceeds_of_leaves leaves)

/-- A number that is converted into its own format exceeds the range as it did before. -/
theorem exceedsSingle_cast (x : Double) : (x.cast : Double).ExceedsSingle ↔ x.ExceedsSingle := by
  cases nan : x.isNaN with
  | false => rw [cast_self (by decide) nan]
  | true =>
      have quiet : (notANumber x.negative : Double).isNaN = true := isNaN_notANumber (by decide) _
      rw [cast_of_isNaN nan]
      exact iff_of_false (fun exceeds => Nat.lt_asymm exceeds.1 (of_decide_eq_true quiet))
        (fun exceeds => Nat.lt_asymm exceeds.1 (of_decide_eq_true nan))

/-- A widened float is narrowed again. -/
theorem narrow_widened (x : Single) :
    (narrow (x.cast : Double) .single).toOption =
      some (@Scalar.float .single (x.cast : Single)) := by
  have within := mt (exceeds_iff (x.cast : Double)).mpr
    (Bool.eq_false_iff.mp (widened_le_largest x))
  rw [narrow_single, if_neg within,
    cast_cast_eq_cast single_embeds_double (by decide) (by decide) x]

/-- A float of 64 bits is narrowed unless it exceeds the range. -/
theorem narrow_converted (x : Double) :
    (narrow (x.cast : Double) .single).toOption =
      if x.ExceedsSingle then none else some (@Scalar.float .single (x.cast : Single)) := by
  rw [narrow_single, cast_cast_eq_cast (embeds_self double) (by decide) (by decide) x]
  simp only [exceedsSingle_cast]

end Range

end NamedConstants
