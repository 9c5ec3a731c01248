import NamedConstants.BinaryFloat.Decimal
import NamedConstants.Proofs.BinaryFloat.Units

/-!
# Rounding to the nearest pattern

Around each pattern lies the interval of the quotients nearest to it
(`Holds.isNearest`). Its ends are halfway to the neighbours
(`low_readBack_succ`, `high_readBack`), and they belong to the pattern if it is
even. Different intervals share no quotient
(`Holds.unique`), and rounding finds the interval in which a quotient lies, so a
quotient is rounded to a finite pattern exactly when it lies in the interval of
this pattern (`round_eq_iff`). In particular the size of a pattern is rounded to
the pattern (`round_units`).
-/

set_option autoImplicit false

namespace NamedConstants.BinaryFormat

variable {format : BinaryFormat}

/-- An end of the interval and a point are in the order that the interval asks
for. -/
def ReadBack.Fits (interval : ReadBack) (first second : Nat) : Prop :=
  if interval.inclusive then first ≤ second else first < second

instance (interval : ReadBack) (first second : Nat) : Decidable (interval.Fits first second) :=
  inferInstanceAs (Decidable (if interval.inclusive then first ≤ second else first < second))

/-- A quotient of units lies in the interval. -/
def ReadBack.Holds (interval : ReadBack) (numerator denominator : Nat) : Prop :=
  if interval.inclusive then
    interval.low * denominator ≤ 4 * numerator ∧ 4 * numerator ≤ interval.high * denominator
  else
    interval.low * denominator < 4 * numerator ∧ 4 * numerator < interval.high * denominator

/-! ## Between two ends -/

namespace ReadBack

variable {interval : ReadBack} {first second : Nat}

namespace Fits

variable (fits : interval.Fits first second)

include fits

theorem le : first ≤ second := by
  unfold Fits at fits
  split at fits
  · exact fits
  · exact Nat.le_of_lt fits

/-- An end belongs to the interval only if the interval has its ends. -/
theorem inclusive_of_eq (same : first = second) : interval.inclusive = true := by
  unfold Fits at fits
  split at fits
  case isTrue inclusive => exact inclusive
  case isFalse => exact absurd same (Nat.ne_of_lt fits)

theorem mul_right {factor : Nat} (positive : 0 < factor) :
    interval.Fits (first * factor) (second * factor) := by
  unfold Fits at fits ⊢
  split at fits
  case isTrue inclusive =>
    rw [if_pos inclusive]
    exact Nat.mul_le_mul_right factor fits
  case isFalse exclusive =>
    rw [if_neg exclusive]
    exact Nat.mul_lt_mul_of_pos_right fits positive

end Fits

theorem fits_of_le (le : first ≤ second) (ends : first = second → interval.inclusive = true) :
    interval.Fits first second := by
  unfold Fits
  split
  case isTrue => exact le
  case isFalse exclusive => exact Nat.lt_of_le_of_ne le fun same => exclusive (ends same)

theorem fits_of_lt (lt : first < second) : interval.Fits first second :=
  fits_of_le (Nat.le_of_lt lt) fun same => absurd same (Nat.ne_of_lt lt)

variable {numerator denominator : Nat}

theorem holds_iff : interval.Holds numerator denominator ↔
    interval.Fits (interval.low * denominator) (4 * numerator) ∧
      interval.Fits (4 * numerator) (interval.high * denominator) := by
  unfold Holds Fits
  split
  · exact Iff.rfl
  · exact Iff.rfl

namespace Holds

variable (holds : interval.Holds numerator denominator)

include holds

theorem low : interval.Fits (interval.low * denominator) (4 * numerator) :=
  (holds_iff.mp holds).1

theorem high : interval.Fits (4 * numerator) (interval.high * denominator) :=
  (holds_iff.mp holds).2

theorem mul_right {factor : Nat} (positive : 0 < factor) :
    interval.Holds (numerator * factor) (denominator * factor) := by
  rw [holds_iff, ← Nat.mul_assoc, ← Nat.mul_assoc, ← Nat.mul_assoc]
  exact ⟨holds.low.mul_right positive, holds.high.mul_right positive⟩

end Holds

end ReadBack

/-! ## The ends of an interval -/

variable (format)

/-- The upper end is halfway to the next pattern. -/
theorem high_readBack (pattern : Nat) :
    (format.readBack pattern).high = 2 * (format.units pattern + format.units (pattern + 1)) := by
  have next := format.units_succ pattern
  change 4 * format.units pattern + 2 * format.gap pattern = _
  omega

/-- The gap doubles at the powers of two that are normal, and only there. -/
theorem gap_succ (pattern : Nat) :
    format.gap (pattern + 1) =
      if (pattern + 1) % twoTo format.fractionBits = 0 ∧
          twoTo (format.fractionBits + 1) ≤ pattern + 1 then
        2 * format.gap pattern
      else format.gap pattern := by
  have positive := twoTo_pos format.fractionBits
  rw [twoTo_succ format.fractionBits]
  induction pattern using format.pattern_cases with
  | subnormal fraction below =>
      rw [gap_subnormal below]
      rcases Nat.lt_or_eq_of_le (Nat.succ_le_of_lt below) with inside | carry
      · have other : ¬(fraction + 1) % twoTo format.fractionBits = 0 := by
          rw [Nat.mod_eq_of_lt inside]
          exact Nat.succ_ne_zero fraction
        rw [if_neg fun power => other power.1]
        exact gap_subnormal inside
      · have first := gap_normal positive 0
        rw [Nat.zero_add, Nat.one_mul, Nat.add_zero] at first
        rw [Nat.succ_eq_add_one] at carry
        rw [carry, first, if_neg fun power => by omega]
  | normal shift fraction below =>
      rw [gap_normal below]
      rcases Nat.lt_or_eq_of_le (Nat.succ_le_of_lt below) with inside | carry
      · rw [Nat.succ_eq_add_one] at inside
        have other : ¬(fraction + 1) = 0 := Nat.succ_ne_zero fraction
        rw [Nat.add_assoc, gap_normal inside, normal_mod inside, if_neg fun power => other power.1]
      · have next : (shift + 1) * twoTo format.fractionBits + fraction + 1 =
            (shift + 1 + 1) * twoTo format.fractionBits + 0 := by
          rw [Nat.add_assoc, ← Nat.succ_eq_add_one fraction, carry, Nat.add_mul (shift + 1) 1,
            Nat.one_mul]
          rfl
        have large : 2 * twoTo format.fractionBits ≤
            (shift + 1 + 1) * twoTo format.fractionBits + 0 :=
          Nat.mul_le_mul_right _ (by omega)
        rw [next, gap_normal positive, normal_mod positive, if_pos ⟨rfl, large⟩, twoTo_succ]

/-- The lower end is halfway to the pattern before. -/
theorem low_readBack_succ (pattern : Nat) :
    (format.readBack (pattern + 1)).low =
      2 * (format.units pattern + format.units (pattern + 1)) := by
  have next := format.units_succ pattern
  have gap := format.gap_succ pattern
  simp only [readBack]
  split at gap
  case isTrue power =>
    rw [if_pos power]
    omega
  case isFalse other =>
    rw [if_neg other]
    omega

theorem low_readBack_le_units (pattern : Nat) :
    (format.readBack pattern).low ≤ 4 * format.units pattern :=
  Nat.sub_le _ _

theorem low_readBack_lt_units (pattern : Nat) :
    (format.readBack (pattern + 1)).low < 4 * format.units (pattern + 1) := by
  have growth := format.units_lt_units (Nat.lt_add_one pattern)
  rw [low_readBack_succ]
  omega

theorem units_lt_high_readBack (pattern : Nat) :
    4 * format.units pattern < (format.readBack pattern).high := by
  have growth := format.units_lt_units (Nat.lt_add_one pattern)
  rw [high_readBack]
  omega

/-- Each interval ends where the next one starts. -/
theorem high_readBack_le_low {first second : Nat} (lt : first < second) :
    (format.readBack first).high ≤ (format.readBack second).low := by
  obtain ⟨before, rfl⟩ : ∃ before, second = before + 1 := ⟨second - 1, by omega⟩
  rw [high_readBack, low_readBack_succ]
  have start := format.units_le_units (Nat.le_of_lt_succ lt)
  have finish := format.units_le_units (Nat.succ_le_of_lt lt)
  rw [Nat.succ_eq_add_one] at finish
  omega

/-! ## Intervals share no quotient -/

variable {format}

section Quotient

variable {numerator denominator : Nat}

/-- A quotient does not lie in the intervals of two patterns. -/
theorem not_holds_of_lt (positive : 0 < denominator) {first second : Nat} (lt : first < second)
    (holds : (format.readBack first).Holds numerator denominator) :
    ¬(format.readBack second).Holds numerator denominator := by
  intro holds'
  have meet := Nat.mul_le_mul_right denominator (format.high_readBack_le_low lt)
  have most : 4 * numerator = (format.readBack first).high * denominator :=
    Nat.le_antisymm holds.high.le (Nat.le_trans meet holds'.low.le)
  have least : (format.readBack second).low * denominator = 4 * numerator :=
    Nat.le_antisymm holds'.low.le (most ▸ meet)
  -- both ends belong to their patterns, so both patterns are even, and they are neighbours
  have even := eq_of_beq (holds.high.inclusive_of_eq most)
  have even' := eq_of_beq (holds'.low.inclusive_of_eq least)
  have ends : (format.readBack second).low = (format.readBack first).high :=
    Nat.eq_of_mul_eq_mul_right positive (least.trans most)
  obtain ⟨before, rfl⟩ : ∃ before, second = before + 1 := ⟨second - 1, by omega⟩
  rw [high_readBack, low_readBack_succ] at ends
  have start := format.units_le_units (Nat.le_of_lt_succ lt)
  have finish := format.units_le_units (Nat.succ_le_of_lt lt)
  rw [Nat.succ_eq_add_one] at finish
  have same := units_inj (show format.units first = format.units before by omega)
  omega

theorem ReadBack.Holds.unique (positive : 0 < denominator) {first second : Nat}
    (holds : (format.readBack first).Holds numerator denominator)
    (holds' : (format.readBack second).Holds numerator denominator) : first = second := by
  rcases Nat.lt_trichotomy first second with lt | same | lt
  · exact absurd holds' (not_holds_of_lt positive lt holds)
  · exact same
  · exact absurd holds (not_holds_of_lt positive lt holds')

/-! ## The nearest pattern -/

/-- How far a quotient is from the size of a pattern, times the denominator. -/
def distance (format : BinaryFormat) (pattern numerator denominator : Nat) : Nat :=
  ((numerator : Int) - format.units pattern * denominator).natAbs

/-- No pattern is nearer to the quotient, and if the pattern is odd, none is as near. -/
def IsNearest (format : BinaryFormat) (pattern numerator denominator : Nat) : Prop :=
  ∀ other, other ≠ pattern →
    format.distance pattern numerator denominator ≤ format.distance other numerator denominator ∧
      (pattern % 2 = 1 →
        format.distance pattern numerator denominator < format.distance other numerator denominator)

/-- **A pattern is nearest to the quotients in its interval.** -/
theorem ReadBack.Holds.isNearest {pattern : Nat} (positive : 0 < denominator)
    (holds : (format.readBack pattern).Holds numerator denominator) :
    format.IsNearest pattern numerator denominator := by
  intro other distinct
  have even (ends : (format.readBack pattern).inclusive = true) : pattern % 2 ≠ 1 := by
    have own := eq_of_beq ends
    omega
  rw [distance, distance]
  rcases Nat.lt_or_gt_of_ne distinct with below | above
  · obtain ⟨before, rfl⟩ : ∃ before, pattern = before + 1 := ⟨pattern - 1, by omega⟩
    have least := holds.low.le
    have tie := fun same => even (holds.low.inclusive_of_eq same)
    have start := Nat.mul_le_mul_right denominator (format.units_le_units (Nat.le_of_lt_succ below))
    have growth := Nat.mul_lt_mul_of_pos_right (format.units_lt_units below) positive
    rw [low_readBack_succ, Nat.mul_assoc, Nat.add_mul] at least tie
    omega
  · have most := holds.high.le
    have tie := fun same => even (holds.high.inclusive_of_eq same)
    have next : pattern + 1 ≤ other := above
    have finish := Nat.mul_le_mul_right denominator (format.units_le_units next)
    have growth := Nat.mul_lt_mul_of_pos_right (format.units_lt_units above) positive
    rw [high_readBack, Nat.mul_assoc, Nat.add_mul] at most tie
    omega

/-! ## Rounding finds the interval -/

/-- The quotient that is left when it is cut to the width of a significand. -/
theorem cut_significand (format : BinaryFormat) (quotient : Nat) :
    let shift := quotient.log2 - format.fractionBits
    let significand := quotient / twoTo shift
    significand < twoTo (format.fractionBits + 1) ∧
      (shift = 0 ∨ twoTo format.fractionBits ≤ significand) := by
  intro shift significand
  constructor
  · refine (Nat.div_lt_iff_lt_mul (twoTo_pos shift)).mpr ?_
    rw [← twoTo_add]
    exact Nat.lt_of_lt_of_le Nat.lt_log2_self (twoTo_le (by omega))
  · by_cases short : shift = 0
    · exact Or.inl short
    · refine Or.inr ((Nat.le_div_iff_mul_le (twoTo_pos shift)).mpr ?_)
      have full : format.fractionBits + shift = quotient.log2 := by omega
      have nonzero : quotient ≠ 0 := by
        rintro rfl
        exact short (Nat.zero_sub _)
      rw [← twoTo_add, full]
      exact Nat.log2_self_le nonzero

/-- The pattern of a significand that is wide enough to be shifted. -/
theorem units_of_cut {shift significand : Nat}
    (narrow : significand < twoTo (format.fractionBits + 1))
    (full : shift = 0 ∨ twoTo format.fractionBits ≤ significand) :
    format.units (shift * twoTo format.fractionBits + significand) = significand * twoTo shift ∧
      format.gap (shift * twoTo format.fractionBits + significand) = twoTo shift := by
  rcases Nat.lt_or_ge significand (twoTo format.fractionBits) with small | large
  · obtain rfl : shift = 0 := full.resolve_right (Nat.not_le.mpr small)
    rw [Nat.zero_mul, Nat.zero_add, units_subnormal small, gap_subnormal small]
    exact ⟨(Nat.mul_one _).symm, rfl⟩
  · exact format.units_of_significand large narrow shift

/-- A pattern is even if its significand is. -/
theorem mod_two_of_cut (wide : 0 < format.fractionBits) (shift significand : Nat) :
    (shift * twoTo format.fractionBits + significand) % 2 = significand % 2 := by
  obtain ⟨fewer, width⟩ : ∃ fewer, format.fractionBits = fewer + 1 :=
    ⟨format.fractionBits - 1, by omega⟩
  rw [width, twoTo_succ, Nat.mul_left_comm, Nat.mul_add_mod]

/-- Between two neighbouring patterns the nearer one is taken, or the even one if
both are equally near. -/
theorem round_eq_of_between (wide : 0 < format.fractionBits) (positive : 0 < denominator)
    (numerator : Nat) :
    ∃ pattern, format.units pattern * denominator ≤ numerator ∧
      numerator < format.units (pattern + 1) * denominator ∧
      format.round numerator denominator =
        min
          (if 2 * numerator <
              (format.units pattern + format.units (pattern + 1)) * denominator then pattern
          else if 2 * numerator =
              (format.units pattern + format.units (pattern + 1)) * denominator ∧
                pattern % 2 = 0 then pattern
          else pattern + 1)
          format.infinity := by
  obtain ⟨narrow, full⟩ := cut_significand format (numerator / denominator)
  rw [Nat.div_div_eq_div_mul] at narrow full
  unfold round
  generalize (numerator / denominator).log2 - format.fractionBits = shift at *
  have step := Nat.mul_pos positive (twoTo_pos shift)
  have cut := Nat.div_add_mod numerator (denominator * twoTo shift)
  have rest := Nat.mod_lt numerator step
  unfold divNearestEven
  dsimp only
  generalize numerator / (denominator * twoTo shift) = significand at *
  generalize numerator % (denominator * twoTo shift) = remainder at *
  have size := units_of_cut narrow full
  have parity := mod_two_of_cut wide shift significand
  have start : format.units (shift * twoTo format.fractionBits + significand) * denominator =
      denominator * twoTo shift * significand := by
    rw [size.1, Nat.mul_comm significand, Nat.mul_comm, Nat.mul_assoc]
  have finish : format.units (shift * twoTo format.fractionBits + significand + 1) * denominator =
      denominator * twoTo shift * significand + denominator * twoTo shift := by
    rw [units_succ, Nat.add_mul, start, size.2, Nat.mul_comm (twoTo shift)]
  refine ⟨shift * twoTo format.fractionBits + significand, ?_, ?_, ?_⟩
  · rw [start]
    omega
  · rw [finish]
    omega
  · rw [Nat.add_mul, start, finish, parity]
    generalize denominator * twoTo shift = width at *
    congr 1
    have nearer : 2 * numerator < width * significand + (width * significand + width) ↔
        2 * remainder < width := by omega
    have tied : 2 * numerator = width * significand + (width * significand + width) ↔
        2 * remainder = width := by omega
    simp only [nearer, tied]
    split
    · rfl
    · split
      · rfl
      · rfl

/-- Above the pattern only the upper end of its interval matters. -/
theorem holds_above (positive : 0 < denominator) {pattern : Nat}
    (above : format.units pattern * denominator ≤ numerator)
    (within : 4 * numerator ≤ (format.readBack pattern).high * denominator)
    (even : 4 * numerator = (format.readBack pattern).high * denominator → pattern % 2 = 0) :
    (format.readBack pattern).Holds numerator denominator := by
  have start := Nat.mul_le_mul_right denominator (format.low_readBack_le_units pattern)
  rw [Nat.mul_assoc] at start
  refine ReadBack.holds_iff.mpr ⟨ReadBack.fits_of_le (by omega) fun least => ?_,
    ReadBack.fits_of_le within fun most => beq_iff_eq.mpr (even most)⟩
  cases pattern with
  | zero => rfl
  | succ before =>
      -- the pattern is not at the lower end of its interval
      have gap := Nat.mul_lt_mul_of_pos_right (format.low_readBack_lt_units before)
        positive
      rw [Nat.mul_assoc] at gap
      omega

/-- Below the pattern only the lower end of its interval matters. -/
theorem holds_below (positive : 0 < denominator) {pattern : Nat}
    (below : numerator ≤ format.units pattern * denominator)
    (within : (format.readBack pattern).low * denominator ≤ 4 * numerator)
    (even : (format.readBack pattern).low * denominator = 4 * numerator → pattern % 2 = 0) :
    (format.readBack pattern).Holds numerator denominator := by
  have gap := Nat.mul_lt_mul_of_pos_right (format.units_lt_high_readBack pattern) positive
  rw [Nat.mul_assoc] at gap
  exact ReadBack.holds_iff.mpr
    ⟨ReadBack.fits_of_le within fun least => beq_iff_eq.mpr (even least),
      ReadBack.fits_of_lt (by omega)⟩

/-- **A quotient lies in the interval of the pattern it is rounded to.** -/
theorem exists_holds_round (wide : 0 < format.fractionBits) (positive : 0 < denominator)
    (numerator : Nat) :
    ∃ pattern, (format.readBack pattern).Holds numerator denominator ∧
      format.round numerator denominator = min pattern format.infinity := by
  obtain ⟨pattern, start, finish, rounded⟩ := round_eq_of_between wide positive numerator
  generalize middle : (format.units pattern + format.units (pattern + 1)) * denominator = double
    at rounded
  have high : (format.readBack pattern).high * denominator = 2 * double := by
    rw [high_readBack, Nat.mul_assoc, middle]
  have low : (format.readBack (pattern + 1)).low * denominator = 2 * double := by
    rw [low_readBack_succ, Nat.mul_assoc, middle]
  split at rounded
  case isTrue nearer =>
    exact ⟨pattern, holds_above positive start (by omega) (fun most => by omega), rounded⟩
  case isFalse farther =>
    split at rounded
    case isTrue tie =>
      exact ⟨pattern, holds_above positive start (by omega) (fun _ => tie.2), rounded⟩
    case isFalse other =>
      refine ⟨pattern + 1, holds_below positive (Nat.le_of_lt finish) (by omega) ?_, rounded⟩
      intro least
      have odd : ¬pattern % 2 = 0 := fun even => other ⟨by omega, even⟩
      omega

/-- **A quotient is rounded to a finite pattern exactly if it lies in the interval
of the pattern.** -/
theorem round_eq_iff (wide : 0 < format.fractionBits) (positive : 0 < denominator) {pattern : Nat}
    (finite : pattern < format.infinity) :
    format.round numerator denominator = pattern ↔
      (format.readBack pattern).Holds numerator denominator := by
  obtain ⟨nearest, holds, rounded⟩ := exists_holds_round wide positive numerator
  rw [rounded]
  constructor
  · intro same
    obtain rfl : nearest = pattern := by omega
    exact holds
  · intro holds'
    obtain rfl := holds.unique positive holds'
    exact Nat.min_eq_left (Nat.le_of_lt finite)

/-- A quotient is rounded alike however it is expanded. -/
theorem round_mul_right (wide : 0 < format.fractionBits) (positive : 0 < denominator)
    {factor : Nat} (nonzero : 0 < factor) :
    format.round (numerator * factor) (denominator * factor) =
      format.round numerator denominator := by
  obtain ⟨nearest, holds, rounded⟩ := exists_holds_round wide positive numerator
  obtain ⟨nearest', holds', rounded'⟩ :=
    exists_holds_round wide (Nat.mul_pos positive nonzero) (numerator * factor)
  have same := holds'.unique (Nat.mul_pos positive nonzero) (holds.mul_right nonzero)
  rw [rounded, rounded', same]

/-- Rounding keeps the order of quotients. -/
theorem round_le_round (wide : 0 < format.fractionBits) (positive : 0 < denominator)
    {larger : Nat} (le : numerator ≤ larger) :
    format.round numerator denominator ≤ format.round larger denominator := by
  obtain ⟨nearest, holds, rounded⟩ := exists_holds_round wide positive numerator
  obtain ⟨nearest', holds', rounded'⟩ := exists_holds_round wide positive larger
  have ordered : nearest ≤ nearest' := by
    rcases Nat.lt_or_ge nearest' nearest with lt | ge
    · have meet := Nat.mul_le_mul_right denominator (format.high_readBack_le_low lt)
      have least := holds.low.le
      have most := holds'.high.le
      obtain rfl : numerator = larger := by omega
      exact Nat.le_of_eq (holds.unique positive holds')
    · exact ge
  rw [rounded, rounded']
  omega

/-- What does not exceed a number is not rounded beyond it. -/
theorem round_le_of_le (wide : 0 < format.fractionBits) (positive : 0 < denominator)
    {pattern : Nat} (le : numerator ≤ format.units pattern * denominator) :
    format.round numerator denominator ≤ pattern := by
  obtain ⟨nearest, holds, rounded⟩ := exists_holds_round wide positive numerator
  have bound : nearest ≤ pattern := by
    rcases Nat.lt_or_ge pattern nearest with lt | ge
    · have beyond := Nat.mul_lt_mul_of_pos_right
        (format.units_lt_high_readBack pattern) positive
      have gap := Nat.mul_le_mul_right denominator (format.high_readBack_le_low lt)
      have least := holds.low.le
      rw [Nat.mul_assoc] at beyond
      omega
    · exact ge
  rw [rounded]
  exact Nat.le_trans (Nat.min_le_left _ _) bound

/-- What is not below a finite number is not rounded to less. -/
theorem le_round_of_le (wide : 0 < format.fractionBits) (positive : 0 < denominator)
    {pattern : Nat} (finite : pattern ≤ format.infinity)
    (le : format.units pattern * denominator ≤ numerator) :
    pattern ≤ format.round numerator denominator := by
  obtain ⟨nearest, holds, rounded⟩ := exists_holds_round wide positive numerator
  have bound : pattern ≤ nearest := by
    rcases Nat.lt_or_ge nearest pattern with lt | ge
    · obtain ⟨before, rfl⟩ : ∃ before, pattern = before + 1 := ⟨pattern - 1, by omega⟩
      have beyond := Nat.mul_lt_mul_of_pos_right
        (format.low_readBack_lt_units before) positive
      have gap := Nat.mul_le_mul_right denominator (format.high_readBack_le_low lt)
      have most := holds.high.le
      rw [Nat.mul_assoc] at beyond
      omega
    · exact ge
  rw [rounded]
  exact Nat.le_min.mpr ⟨bound, finite⟩

/-- The size of a finite pattern is rounded to the pattern. -/
theorem round_units (wide : 0 < format.fractionBits) (positive : 0 < denominator) {pattern : Nat}
    (finite : pattern < format.infinity) :
    format.round (format.units pattern * denominator) denominator = pattern := by
  have gap := Nat.mul_lt_mul_of_pos_right (format.units_lt_high_readBack pattern) positive
  rw [Nat.mul_assoc] at gap
  refine (round_eq_iff wide positive finite).mpr (holds_above positive (Nat.le_refl _) ?_ ?_)
  · exact Nat.le_of_lt gap
  · exact fun most => absurd most (Nat.ne_of_lt gap)

end Quotient

theorem round_le_infinity (format : BinaryFormat) (numerator denominator : Nat) :
    format.round numerator denominator ≤ format.infinity :=
  Nat.min_le_right _ _

/-- What is not below infinity is rounded to it. -/
theorem round_eq_infinity (wide : 0 < format.fractionBits) {numerator denominator : Nat}
    (positive : 0 < denominator) (least : format.units format.infinity * denominator ≤ numerator) :
    format.round numerator denominator = format.infinity :=
  Nat.le_antisymm (format.round_le_infinity _ _)
    (le_round_of_le wide positive (Nat.le_refl _) least)

end NamedConstants.BinaryFormat
