import NamedConstants.Proofs.BinaryFloat.Conversion
import NamedConstants.Proofs.BinaryFloat.Shortest

/-!
# Rounding by way of a wider format

A quotient may be rounded to a wide format first and to a narrow one afterwards.
The result is the one of a single rounding unless the first step moves the
quotient onto a midpoint of two narrow numbers, from the side of the neighbour
that the midpoint is not rounded to (`round_round_eq_iff`). A midpoint is a number of
the wide format, so the quotient must be very near to it for that; a short decimal
with few places is either the midpoint itself or too far away
(`clear_of_decimal`).
-/

set_option autoImplicit false

namespace NamedConstants

open BinaryFormat (Embeds)

/-- The units of a decimal are scaled like the unit itself. -/
theorem Decimal.units_of_embeds {format target : BinaryFormat} {shift : Nat}
    (embeds : Embeds format target shift) (decimal : Decimal) :
    decimal.units target = decimal.units format * twoTo shift := by
  rw [units, units, embeds.unit, twoTo_add, ← Nat.mul_assoc, Nat.mul_right_comm]

end NamedConstants

namespace NamedConstants.BinaryFormat

variable {format target : BinaryFormat}

/-! ## Midpoints -/

/-- Twice the size halfway from a pattern to the next one. -/
def middle (format : BinaryFormat) (pattern : Nat) : Nat :=
  format.units pattern + format.units (pattern + 1)

/-- Twice the midpoint of a pattern and the next one is a significand of one bit
more, scaled by a power of two. -/
theorem exists_midpoint (format : BinaryFormat) (pattern : Nat) :
    ∃ significand < twoTo (format.fractionBits + 2), ∃ scale,
      format.units pattern + format.units (pattern + 1) = significand * twoTo scale := by
  rw [twoTo_succ, twoTo_succ]
  simp only [units_succ]
  induction pattern using format.pattern_cases with
  | subnormal fraction below =>
      rw [units_subnormal below, gap_subnormal below]
      exact ⟨2 * fraction + 1, by omega, 0, by rw [show twoTo 0 = 1 from rfl]; omega⟩
  | normal shift fraction below =>
      rw [units_normal below, gap_normal below]
      refine ⟨2 * (twoTo format.fractionBits + fraction) + 1, by omega, shift, ?_⟩
      rw [Nat.add_mul _ 1, Nat.one_mul, Nat.mul_assoc, Nat.two_mul, Nat.add_assoc]

/-- A normal number is much larger than the gap above it. -/
theorem gap_mul_le_units {pattern : Nat} (normal : twoTo format.fractionBits ≤ pattern) :
    format.gap pattern * twoTo format.fractionBits ≤ format.units pattern := by
  induction pattern using format.pattern_cases with
  | subnormal fraction below => omega
  | normal shift fraction below =>
      rw [units_normal below, gap_normal below, Nat.mul_comm]
      exact Nat.mul_le_mul_right _ (Nat.le_add_right _ _)

/-- A quotient in the interval of a pattern is at most half a gap away. -/
theorem near_of_holds {pattern numerator denominator : Nat}
    (holds : (format.readBack pattern).Holds numerator denominator) :
    4 * (format.units pattern * denominator) ≤
        4 * numerator + 2 * (format.gap pattern * denominator) ∧
      4 * numerator ≤
        4 * (format.units pattern * denominator) + 2 * (format.gap pattern * denominator) := by
  have low : 4 * format.units pattern ≤
      (format.readBack pattern).low + 2 * format.gap pattern := by
    simp only [readBack]
    split <;> omega
  have high : (format.readBack pattern).high = 4 * format.units pattern + 2 * format.gap pattern :=
    rfl
  have least := holds.low.le
  have most := holds.high.le
  have low' := Nat.mul_le_mul_right denominator low
  rw [high, Nat.add_mul, Nat.mul_assoc, Nat.mul_assoc] at most
  rw [Nat.add_mul, Nat.mul_assoc, Nat.mul_assoc] at low'
  exact ⟨by omega, most⟩

/-! ## Both sides of a midpoint -/

section Sides

variable {pattern numerator denominator : Nat}

/-- A quotient below a midpoint is not rounded beyond it. -/
theorem round_le_of_lt_middle (wide : 0 < format.fractionBits) (positive : 0 < denominator)
    (below : 2 * numerator < format.middle pattern * denominator) :
    format.round numerator denominator ≤ pattern := by
  obtain ⟨nearest, holds, rounded⟩ := exists_holds_round wide positive numerator
  have bound : nearest ≤ pattern := by
    refine Nat.le_of_not_lt fun lt => ?_
    have gap := Nat.mul_le_mul_right denominator (format.high_readBack_le_low lt)
    have least := holds.low.le
    rw [high_readBack, Nat.mul_assoc, ← middle] at gap
    omega
  rw [rounded]
  exact Nat.le_trans (Nat.min_le_left _ _) bound

/-- A quotient above a midpoint is rounded beyond it. -/
theorem lt_round_of_middle_lt (wide : 0 < format.fractionBits) (positive : 0 < denominator)
    (finite : pattern < format.infinity)
    (above : format.middle pattern * denominator < 2 * numerator) :
    pattern < format.round numerator denominator := by
  obtain ⟨nearest, holds, rounded⟩ := exists_holds_round wide positive numerator
  have bound : pattern < nearest := by
    refine Nat.lt_of_not_le fun le => ?_
    have gap := Nat.mul_le_mul_right denominator
      (format.high_readBack_le_low (Nat.lt_succ_of_le le))
    have most := holds.high.le
    rw [low_readBack_succ, Nat.mul_assoc, ← middle] at gap
    omega
  rw [rounded]
  exact Nat.lt_min.mpr ⟨bound, finite⟩

/-- A midpoint is rounded to the even one of its neighbours. -/
theorem round_middle (wide : 0 < format.fractionBits) (positive : 0 < denominator)
    (finite : pattern < format.infinity)
    (same : 2 * numerator = format.middle pattern * denominator) :
    format.round numerator denominator = pattern + pattern % 2 := by
  obtain ⟨nearest, holds, rounded⟩ := exists_holds_round wide positive numerator
  have high : (format.readBack pattern).high * denominator = 4 * numerator := by
    rw [high_readBack, Nat.mul_assoc, ← middle, ← same]
    omega
  have low : (format.readBack (pattern + 1)).low * denominator = 4 * numerator := by
    rw [low_readBack_succ, Nat.mul_assoc, ← middle, ← same]
    omega
  have growth := format.units_lt_units (Nat.lt_add_one pattern)
  have inside := Nat.mul_lt_mul_of_pos_right growth positive
  have split : format.middle pattern * denominator =
      format.units pattern * denominator + format.units (pattern + 1) * denominator :=
    Nat.add_mul _ _ _
  have even : (format.readBack (pattern + pattern % 2)).Holds numerator denominator := by
    rcases Nat.mod_two_eq_zero_or_one pattern with even | odd
    · rw [even, Nat.add_zero]
      exact holds_above positive (by omega) (Nat.le_of_eq high.symm) fun _ => even
    · rw [odd]
      exact holds_below positive (by omega) (Nat.le_of_eq low) fun _ => by omega
  rw [rounded, holds.unique positive even]
  omega

/-- **Between two neighbours the nearer one is taken, and halfway the even one.** -/
theorem round_eq_of_near (wide : 0 < format.fractionBits) (positive : 0 < denominator)
    (finite : pattern < format.infinity) (least : format.units pattern * denominator ≤ numerator)
    (most : numerator ≤ format.units (pattern + 1) * denominator) :
    format.round numerator denominator =
      if 2 * numerator < format.middle pattern * denominator then pattern
      else if 2 * numerator = format.middle pattern * denominator then pattern + pattern % 2
      else pattern + 1 := by
  have start := le_round_of_le wide positive (Nat.le_of_lt finite) least
  have finish := round_le_of_le wide positive most
  split
  · rename_i below
    exact Nat.le_antisymm (round_le_of_lt_middle wide positive below) start
  · split
    · rename_i same
      exact round_middle wide positive finite same
    · have above : format.middle pattern * denominator < 2 * numerator := by omega
      exact Nat.le_antisymm finish (lt_round_of_middle_lt wide positive finite above)

end Sides

/-! ## Where two roundings differ from one -/

/-- A quotient is rounded onto a midpoint of the format from the side whose neighbour the
midpoint is not rounded to. -/
def MovesAcross (format target : BinaryFormat) (shift numerator denominator : Nat) : Prop :=
  ∃ pattern < format.infinity,
    target.units (target.round (numerator * twoTo (shift + 1)) denominator) =
        format.middle pattern * twoTo shift ∧
      if pattern % 2 = 0 then format.middle pattern * denominator < 2 * numerator
      else 2 * numerator < format.middle pattern * denominator

/-- A quotient that is rounded to a midpoint of the format is this midpoint. -/
def ClearOfMidpoints (format target : BinaryFormat) (shift numerator denominator : Nat) : Prop :=
  ∀ pattern image,
    target.units image = (format.units pattern + format.units (pattern + 1)) * twoTo shift →
      (target.readBack image).Holds (numerator * twoTo (shift + 1)) denominator →
        (format.units pattern + format.units (pattern + 1)) * denominator = 2 * numerator

/-- A quotient that is clear of midpoints is not moved across one. -/
theorem not_movesAcross_of_clear {shift numerator denominator : Nat}
    (wide : 0 < target.fractionBits) (positive : 0 < denominator)
    (finite : target.round (numerator * twoTo (shift + 1)) denominator < target.infinity)
    (clear : ClearOfMidpoints format target shift numerator denominator) :
    ¬MovesAcross format target shift numerator denominator := by
  rintro ⟨pattern, -, moved, side⟩
  have same := clear pattern _ moved ((round_eq_iff wide positive finite).mp rfl)
  rw [← middle] at same
  split at side
  · exact absurd same (Nat.ne_of_lt side)
  · exact absurd same.symm (Nat.ne_of_lt side)

section Through

variable {shift : Nat} (embeds : Embeds format target (shift + 1))
variable (wider : format.fractionBits < target.fractionBits)

include embeds wider

/-- The midpoints of finite numbers are finite numbers of the wider format. -/
theorem exists_units_midpoint {pattern : Nat} (finite : pattern < format.infinity) :
    ∃ image < target.infinity,
      target.units image = (format.units pattern + format.units (pattern + 1)) * twoTo shift := by
  obtain ⟨significand, fits, scale, size⟩ := format.exists_midpoint pattern
  have fits' : significand < twoTo (target.fractionBits + 1) :=
    Nat.lt_of_lt_of_le fits (twoTo_le (by omega))
  obtain ⟨image, found⟩ := target.exists_units_eq fits' (scale + shift)
  have same : target.units image =
      (format.units pattern + format.units (pattern + 1)) * twoTo shift := by
    rw [found, size, twoTo_add, Nat.mul_assoc]
  refine ⟨image, lt_of_units_lt (Nat.lt_of_lt_of_le ?_ embeds.range), same⟩
  have start := format.units_lt_units finite
  have finish := format.units_le_units (Nat.succ_le_of_lt finite)
  rw [Nat.succ_eq_add_one] at finish
  rw [same, twoTo_succ, Nat.mul_left_comm, ← Nat.mul_assoc]
  exact Nat.mul_lt_mul_of_pos_right (by omega) (twoTo_pos shift)

end Through

section Scaled

variable {shift denominator image size : Nat} (wide : 0 < target.fractionBits)
variable (positive : 0 < denominator) (own : target.units image = size * twoTo shift)
variable (numerator : Nat)

include wide positive own

/-- Rounding keeps above a number of the target, counted in half units of the format. -/
theorem le_units_round (inRange : image ≤ target.infinity)
    (least : size * denominator ≤ 2 * numerator) :
    size * twoTo shift ≤
      target.units (target.round (numerator * twoTo (shift + 1)) denominator) := by
  rw [← own]
  refine target.units_le_units (le_round_of_le wide positive inRange ?_)
  rw [own, twoTo_succ, Nat.mul_right_comm, Nat.mul_left_comm, ← Nat.mul_assoc]
  exact Nat.mul_le_mul_right _ least

/-- Rounding keeps below a number of the target, counted in half units of the format. -/
theorem units_round_le (most : 2 * numerator ≤ size * denominator) :
    target.units (target.round (numerator * twoTo (shift + 1)) denominator) ≤
      size * twoTo shift := by
  rw [← own]
  refine target.units_le_units (round_le_of_le wide positive ?_)
  rw [own, twoTo_succ, Nat.mul_right_comm, Nat.mul_left_comm, ← Nat.mul_assoc]
  exact Nat.mul_le_mul_right _ most

end Scaled

theorem mul_twoTo_succ (size shift : Nat) :
    size * twoTo (shift + 1) = 2 * (size * twoTo shift) := by
  rw [twoTo_succ, Nat.mul_left_comm]

/-- What is moved, at most onto the midpoint, and not from the wrong side, leads to the same
neighbour. -/
theorem taken_eq_of_sides {pattern moved middle exact bound : Nat}
    (keepsAbove : bound ≤ exact → middle ≤ moved) (keepsBelow : exact ≤ bound → moved ≤ middle)
    (clear : moved = middle → ¬if pattern % 2 = 0 then bound < exact else exact < bound) :
    (if 2 * moved < 2 * middle then pattern
      else if 2 * moved = 2 * middle then pattern + pattern % 2
      else pattern + 1) =
      if exact < bound then pattern
      else if exact = bound then pattern + pattern % 2
      else pattern + 1 := by
  rcases Nat.lt_trichotomy moved middle with below | rfl | above
  · have below' : exact < bound := Nat.lt_of_not_le fun le => Nat.not_le.mpr below (keepsAbove le)
    rw [if_pos below', if_pos (Nat.mul_lt_mul_of_pos_left below Nat.two_pos)]
  · have side := clear rfl
    rw [if_neg (Nat.lt_irrefl _), if_pos rfl]
    split at side
    · rename_i even
      rw [even, Nat.add_zero]
      split
      · rfl
      · split
        · rfl
        · have above := Nat.not_lt.mp side
          omega
    · rw [if_neg side]
      split
      · rfl
      · omega
  · have above' : bound < exact := Nat.lt_of_not_le fun le => Nat.not_le.mpr above (keepsBelow le)
    rw [if_neg (by omega), if_neg (by omega), if_neg (by omega), if_neg (by omega)]

section Twice

variable {shift numerator denominator : Nat} (embeds : Embeds format target (shift + 1))
variable (wider : format.fractionBits < target.fractionBits) (wide : 0 < format.fractionBits)
variable (positive : 0 < denominator)

include wide positive

/-- A quotient that is moved onto a midpoint from the wrong side is rounded away from its
nearest number. -/
theorem round_round_ne_of_movesAcross
    (across : MovesAcross format target shift numerator denominator) :
    format.round (target.units (target.round (numerator * twoTo (shift + 1)) denominator))
      (twoTo (shift + 1)) ≠ format.round numerator denominator := by
  obtain ⟨pattern, finite, moved, side⟩ := across
  intro same
  have onto : 2 * target.units (target.round (numerator * twoTo (shift + 1)) denominator) =
      format.middle pattern * twoTo (shift + 1) := by rw [moved, mul_twoTo_succ]
  rw [round_middle wide (twoTo_pos _) finite onto] at same
  split at side
  · have beyond := lt_round_of_middle_lt wide positive finite side
    omega
  · have within := round_le_of_lt_middle wide positive side
    omega

include embeds wider

/-- Beyond the finite numbers both ways lead to infinity. -/
theorem round_round_of_infinity_le
    (least : format.units format.infinity * denominator ≤ numerator) :
    format.round (target.units (target.round (numerator * twoTo (shift + 1)) denominator))
      (twoTo (shift + 1)) = format.infinity := by
  obtain ⟨image, inRange, size⟩ := embeds.exists_image (Nat.le_refl _)
  refine round_eq_infinity wide (twoTo_pos _) ?_
  rw [← size]
  refine target.units_le_units
    (le_round_of_le (Nat.lt_trans wide wider) positive inRange ?_)
  rw [size, Nat.mul_right_comm]
  exact Nat.mul_le_mul_right _ least

/-- A quotient between two neighbours that is not moved across their midpoint is rounded to
the same one of them in both ways. -/
theorem round_round_of_finite {pattern : Nat} (finite : pattern < format.infinity)
    (least : format.units pattern * denominator ≤ numerator)
    (most : numerator ≤ format.units (pattern + 1) * denominator)
    (clear : ¬MovesAcross format target shift numerator denominator) :
    format.round (target.units (target.round (numerator * twoTo (shift + 1)) denominator))
      (twoTo (shift + 1)) = format.round numerator denominator := by
  have wide' : 0 < target.fractionBits := Nat.lt_trans wide wider
  obtain ⟨low, inRange, lowSize⟩ := embeds.exists_image (Nat.le_of_lt finite)
  obtain ⟨middle, inRange', middleSize⟩ := exists_units_midpoint embeds wider finite
  obtain ⟨high, -, highSize⟩ := embeds.exists_image (Nat.succ_le_of_lt finite)
  rw [← BinaryFormat.middle] at middleSize
  rw [mul_twoTo_succ, ← Nat.mul_assoc] at lowSize highSize
  -- the first rounding keeps to the two neighbours and to the same side of their midpoint
  have keepsLow := le_units_round wide' positive lowSize numerator inRange
    (by rw [Nat.mul_assoc]; omega)
  have keepsHigh := units_round_le wide' positive highSize numerator
    (by rw [Nat.mul_assoc]; exact Nat.mul_le_mul_left 2 most)
  have keepsAbove := le_units_round wide' positive middleSize numerator (Nat.le_of_lt inRange')
  have keepsBelow := units_round_le wide' positive middleSize numerator
  rw [round_eq_of_near wide positive finite least most,
    round_eq_of_near wide (twoTo_pos _) finite
      (by rw [mul_twoTo_succ (format.units pattern), ← Nat.mul_assoc]; exact keepsLow)
      (by rw [mul_twoTo_succ (format.units (pattern + 1)), ← Nat.mul_assoc]; exact keepsHigh),
    mul_twoTo_succ (format.middle pattern)]
  exact taken_eq_of_sides keepsAbove keepsBelow fun moved side =>
    clear ⟨pattern, finite, moved, side⟩

/-- **Rounding to a wider format first makes a difference exactly for a quotient that is
moved onto a midpoint from the wrong side.** -/
theorem round_round_eq_iff :
    format.round (target.units (target.round (numerator * twoTo (shift + 1)) denominator))
        (twoTo (shift + 1)) = format.round numerator denominator ↔
      ¬MovesAcross format target shift numerator denominator := by
  constructor
  · exact fun same across =>
      round_round_ne_of_movesAcross wide positive across same
  · intro clear
    obtain ⟨pattern, least, most, -⟩ := round_eq_of_between wide positive numerator
    rcases Nat.lt_or_ge pattern format.infinity with finite | beyond
    · exact round_round_of_finite embeds wider wide positive finite least (Nat.le_of_lt most) clear
    · have infinite := Nat.le_trans
        (Nat.mul_le_mul_right denominator (format.units_le_units beyond)) least
      rw [round_round_of_infinity_le embeds wider wide positive infinite,
        round_eq_infinity wide positive infinite]

/-- **Two roundings are as good as one for a quotient that is clear of
midpoints.** -/
theorem holds_of_rounded {pattern : Nat} (finite : pattern < format.infinity)
    (holds : (format.readBack pattern).Holds numerator denominator)
    (clear : ClearOfMidpoints format target shift numerator denominator) :
    let rounded := target.round (numerator * twoTo (shift + 1)) denominator
    rounded < target.infinity ∧
      (format.readBack pattern).Holds (target.units rounded) (twoTo (shift + 1)) := by
  intro rounded
  have wide' : 0 < target.fractionBits := Nat.lt_trans wide wider
  have finite' : rounded < target.infinity := by
    obtain ⟨upper, inRange, size⟩ := exists_units_midpoint embeds wider finite
    have most := holds.high.le
    rw [high_readBack, Nat.mul_assoc] at most
    have below := units_round_le wide' positive size numerator (by omega)
    rw [← size] at below
    exact lt_of_units_lt (Nat.lt_of_le_of_lt below (target.units_lt_units inRange))
  have clear' := not_movesAcross_of_clear wide' positive finite' clear
  refine ⟨finite', (round_eq_iff wide (twoTo_pos _) finite).mp ?_⟩
  rw [(round_round_eq_iff embeds wider wide positive).mpr clear']
  exact (round_eq_iff wide positive finite).mpr holds

end Twice

/-! ## Short decimals -/

theorem le_of_mul_le {first second third fourth factor : Nat} (positive : 0 < factor)
    (le : first * (second * factor) ≤ third * (fourth * factor)) :
    first * second ≤ third * fourth := by
  rw [← Nat.mul_assoc, ← Nat.mul_assoc] at le
  exact Nat.le_of_mul_le_mul_right le positive

/-- A short whole number and a significand, scaled by powers of two and ten, are
the same or not near to each other. -/
theorem eq_of_near {digits significand places scale unit : Nat} (fits : digits < twoTo 53)
    (narrow : significand < twoTo 25) (fractional : 0 < places) (few : places ≤ 12)
    (above : twoTo 53 * (digits * twoTo unit) ≤
      (twoTo 53 + 1) * (significand * twoTo scale * tenTo places))
    (below : (twoTo 53 - 1) * (significand * twoTo scale * tenTo places) ≤
      twoTo 53 * (digits * twoTo unit)) :
    significand * twoTo scale * tenTo places = digits * twoTo unit := by
  have factored : significand * twoTo scale * tenTo places =
      significand * fiveTo places * twoTo (scale + places) := by
    rw [tenTo_eq, twoTo_add]
    ac_rfl
  have fives : fiveTo places ≤ fiveTo 12 := fiveTo_le few
  have product := Nat.mul_le_mul_left significand fives
  have five : 5 ∣ significand * fiveTo places :=
    Nat.dvd_mul_left_of_dvd (Nat.dvd_of_pow_dvd fractional (Nat.dvd_refl _)) _
  rw [factored] at above below ⊢
  generalize significand * fiveTo places = odd at *
  rw [show twoTo 53 = 9007199254740992 from rfl] at *
  rw [show twoTo 25 = 33554432 from rfl] at narrow
  rw [show fiveTo 12 = 244140625 from rfl] at product
  rcases Nat.le_total unit (scale + places) with fine | coarse
  · -- both are multiples of the unit
    obtain ⟨more, size⟩ := Nat.exists_eq_add_of_le fine
    have scaled : odd * twoTo (scale + places) = odd * twoTo more * twoTo unit := by
      rw [size, Nat.add_comm, twoTo_add, Nat.mul_assoc]
    rw [scaled] at above below ⊢
    have above' := le_of_mul_le (twoTo_pos unit) above
    have below' := le_of_mul_le (twoTo_pos unit) below
    obtain ⟨fifth, multiple⟩ : 5 ∣ odd * twoTo more := Nat.dvd_mul_right_of_dvd five _
    congr 1
    rcases Nat.lt_trichotomy digits (odd * twoTo more) with less | same | greater
    · -- only the largest short number is near to a larger one, and that is no multiple of five
      have largest : digits = 9007199254740991 := by omega
      omega
    · exact same.symm
    · omega
  · obtain ⟨more, size⟩ := Nat.exists_eq_add_of_le coarse
    have scaled : digits * twoTo unit = digits * twoTo more * twoTo (scale + places) := by
      rw [size, Nat.add_comm _ more, twoTo_add more, Nat.mul_assoc]
    rw [scaled] at above below ⊢
    have above' := le_of_mul_le (twoTo_pos (scale + places)) above
    have below' := le_of_mul_le (twoTo_pos (scale + places)) below
    congr 1
    omega

/-- **A short decimal with few places is clear of the midpoints of numbers of 32
bits.** -/
theorem clear_of_decimal {decimal : Decimal} (fits : decimal.digits < twoTo 53)
    (fractional : decimal.exponent < 0) (few : (-decimal.exponent).toNat ≤ 12) :
    ClearOfMidpoints single double 924 (decimal.units single)
      (tenTo (-decimal.exponent).toNat) := by
  intro pattern image size holds
  obtain ⟨significand, narrow, scale, midpoint⟩ := single.exists_midpoint pattern
  have positive := single.units_pos (Nat.succ_pos pattern)
  have whole : decimal.exponent.toNat = 0 := by omega
  have twice : 2 * decimal.units single = decimal.digits * twoTo 150 := by
    rw [Decimal.units, whole, show single.unitExponent = 149 from rfl, twoTo_succ 149,
      show tenTo 0 = 1 from rfl, Nat.mul_one, Nat.mul_left_comm]
  have normal : twoTo double.fractionBits ≤ image := by
    rcases Nat.lt_or_ge image (twoTo double.fractionBits) with small | large
    · have least : twoTo double.fractionBits ≤ twoTo 924 := twoTo_le (by decide)
      have grown :=
        Nat.le_mul_of_pos_left (twoTo 924) (Nat.add_pos_right (single.units pattern) positive)
      rw [← size, units_subnormal small] at grown
      exact Nat.le_trans least grown
    · exact large
  have gap := Nat.mul_le_mul_right (tenTo (-decimal.exponent).toNat) (gap_mul_le_units normal)
  obtain ⟨least, most⟩ := near_of_holds holds
  rw [midpoint] at size ⊢
  have scaled : decimal.units single * twoTo (924 + 1) =
      decimal.digits * twoTo 150 * twoTo 924 := by
    rw [← twice, twoTo_succ, ← Nat.mul_assoc, Nat.mul_comm _ 2]
  have sized : double.units image * tenTo (-decimal.exponent).toNat =
      significand * twoTo scale * tenTo (-decimal.exponent).toNat * twoTo 924 := by
    rw [size, Nat.mul_right_comm]
  rw [Nat.mul_right_comm] at gap
  rw [scaled, sized] at least most
  rw [sized] at gap
  rw [twice]
  have bits : twoTo double.fractionBits = 4503599627370496 := rfl
  have bits' : twoTo 53 = 9007199254740992 := rfl
  refine eq_of_near fits narrow (by omega) few (le_of_mul_le (twoTo_pos 924) ?_)
    (le_of_mul_le (twoTo_pos 924) ?_)
  all_goals
    rw [bits']
    rw [bits] at gap
    generalize significand * twoTo scale * tenTo (-decimal.exponent).toNat * twoTo 924 = middle at *
    generalize decimal.digits * twoTo 150 * twoTo 924 = size at *
    generalize double.gap image * tenTo (-decimal.exponent).toNat = width at *
    omega

end NamedConstants.BinaryFormat
