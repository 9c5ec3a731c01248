import NamedConstants.Proofs.BinaryFloat.Reading

/-!
# The fewest digits

The shortest decimal of a number lies on the coarsest grid that has a point which reads back as the
number (`exponent_le_shortest`): a point that reads back has one of the two neighbours of the number
on its grid beside it (`exists_onGrid_of_reads`), and the grids that are not searched have none
(`exponent_le_gridAbove`). What reads back is an interval (`Reads.between`). A decimal with fewer
digits would lie below the power of ten that starts the numbers with as many digits as the shortest
one, so this power of ten would read back, too, and it lies on a coarser grid. Hence no decimal with
fewer digits reads back (`length_shortest_le`).
-/

set_option autoImplicit false

namespace NamedConstants

/-! ## The order of decimals -/

/-- The first decimal does not exceed the second one. -/
def Decimal.IsAtMost (first second : Decimal) : Prop :=
  first.digits * tenTo (first.exponent - second.exponent).toNat ≤
    second.digits * tenTo (second.exponent - first.exponent).toNat

/-- A quotient of units, expanded by the places of another decimal, in terms of what is common to
both decimals. -/
theorem Decimal.units_mul_places (format : BinaryFormat) (first second : Decimal) :
    first.units format * tenTo (-second.exponent).toNat =
      first.digits * tenTo (first.exponent - second.exponent).toNat *
        (twoTo format.unitExponent * tenTo (min (first.exponent.toNat + (-second.exponent).toNat)
          (second.exponent.toNat + (-first.exponent).toNat))) := by
  have powers : first.exponent.toNat + (-second.exponent).toNat =
      (first.exponent - second.exponent).toNat + min
        (first.exponent.toNat + (-second.exponent).toNat)
        (second.exponent.toNat + (-first.exponent).toNat) := by omega
  rw [units, Nat.mul_assoc, ← tenTo_add, powers, tenTo_add, ← powers]
  simp only [Nat.mul_assoc, Nat.mul_left_comm]

/-- Decimals are ordered like their quotients of units. -/
theorem Decimal.IsAtMost.units_le {first second : Decimal} (ordered : first.IsAtMost second)
    (format : BinaryFormat) :
    first.units format * tenTo (-second.exponent).toNat ≤
      second.units format * tenTo (-first.exponent).toNat := by
  rw [units_mul_places, units_mul_places format second first, Nat.min_comm]
  exact Nat.mul_le_mul_right _ ordered

section Powers

variable {decimal : Decimal} {count : Nat}

/-- A decimal is at most a power of ten on the grids above its own. -/
theorem Decimal.isAtMost_power {exponent : Int} (grid : decimal.exponent ≤ exponent)
    (small : decimal.digits ≤ tenTo count) : decimal.IsAtMost ⟨1, exponent + count⟩ := by
  have finer : (decimal.exponent - (exponent + count)).toNat = 0 := by omega
  have wider : count ≤ (exponent + count - decimal.exponent).toNat := by omega
  rw [IsAtMost, finer, Nat.one_mul]
  exact Nat.le_trans (Nat.le_of_eq (Nat.mul_one _)) (Nat.le_trans small (tenTo_le wider))

/-- A decimal with many digits is at least a power of ten. -/
theorem Decimal.power_isAtMost (large : tenTo count ≤ decimal.digits) :
    IsAtMost ⟨1, decimal.exponent + count⟩ decimal := by
  have wider : (decimal.exponent + count - decimal.exponent).toNat = count := by omega
  have finer : (decimal.exponent - (decimal.exponent + count)).toNat = 0 := by omega
  rw [IsAtMost, wider, finer, Nat.one_mul]
  exact Nat.le_trans large (Nat.le_of_eq (Nat.mul_one _).symm)

end Powers

namespace BinaryFormat

variable {format : BinaryFormat}

/-! ## What reads back is an interval -/

namespace ReadBack

variable {interval : ReadBack}

namespace Fits

variable {first second : Nat}

theorem trans_le {third : Nat} (fits : interval.Fits first second) (le : second ≤ third) :
    interval.Fits first third :=
  fits_of_le (Nat.le_trans fits.le le) fun same =>
    fits.inclusive_of_eq (Nat.le_antisymm fits.le (same ▸ le))

theorem le_trans {third : Nat} (le : first ≤ second) (fits : interval.Fits second third) :
    interval.Fits first third :=
  fits_of_le (Nat.le_trans le fits.le) fun same =>
    fits.inclusive_of_eq (Nat.le_antisymm fits.le (same ▸ le))

theorem of_mul_right {factor : Nat} (positive : 0 < factor)
    (fits : interval.Fits (first * factor) (second * factor)) : interval.Fits first second :=
  fits_of_le (Nat.le_of_mul_le_mul_right fits.le positive) fun same =>
    fits.inclusive_of_eq (same ▸ rfl)

end Fits

/-- A quotient between two quotients of the interval lies in the interval. -/
theorem Holds.between {lower upper numerator lower' upper' denominator : Nat}
    (positive : 0 < lower') (positive' : 0 < upper')
    (low : interval.Holds lower lower') (high : interval.Holds upper upper')
    (above : lower * denominator ≤ numerator * lower')
    (below : numerator * upper' ≤ upper * denominator)
    (whole : 0 < denominator) : interval.Holds numerator denominator := by
  refine holds_iff.mpr ⟨?_, ?_⟩
  · have scaled := low.low.mul_right whole
    rw [Nat.mul_assoc 4] at scaled
    have fits := scaled.trans_le (Nat.mul_le_mul_left 4 above)
    rw [Nat.mul_right_comm, ← Nat.mul_assoc] at fits
    exact fits.of_mul_right positive
  · have scaled := high.high.mul_right whole
    rw [Nat.mul_assoc 4] at scaled
    have fits := Fits.le_trans (Nat.mul_le_mul_left 4 below) scaled
    rw [Nat.mul_right_comm interval.high, ← Nat.mul_assoc] at fits
    exact fits.of_mul_right positive'

end ReadBack

section Reads

variable {pattern : Nat} {decimal : Decimal}

/-- **A decimal between two decimals that read back reads back.** -/
theorem Reads.between {first second : Decimal} (reads : format.Reads pattern first)
    (reads' : format.Reads pattern second) (above : first.IsAtMost decimal)
    (below : decimal.IsAtMost second) : format.Reads pattern decimal :=
  ReadBack.Holds.between (tenTo_pos _) (tenTo_pos _) reads reads' (above.units_le format)
    (below.units_le format) (tenTo_pos _)

/-- The interval of a positive number has positive numbers only. -/
theorem low_readBack_pos (positive : 0 < pattern) : 0 < (format.readBack pattern).low := by
  obtain ⟨before, rfl⟩ : ∃ before, pattern = before + 1 := ⟨pattern - 1, by omega⟩
  have size := format.units_pos positive
  rw [low_readBack_succ]
  omega

theorem digits_ne_zero_of_reads (positive : 0 < pattern) (reads : format.Reads pattern decimal) :
    decimal.digits ≠ 0 := by
  intro zero
  have least := reads.low.le
  have start := Nat.mul_pos (@low_readBack_pos format _ positive)
    (tenTo_pos (-decimal.exponent).toNat)
  rw [Decimal.units, zero, Nat.zero_mul, Nat.zero_mul, Nat.mul_zero] at least
  exact Nat.not_lt.mpr least start

/-! ## The coarsest grid -/

/-- **A point that reads back has a neighbour of the number beside it** with which the grid
answers. -/
theorem exists_onGrid_of_reads (tie : TieRule) (positive : 0 < pattern)
    (reads : format.Reads pattern decimal) :
    ∃ digits, digits ≠ 0 ∧
      format.onGrid tie (format.readBack pattern) decimal.exponent = some digits := by
  have point := format.four_mul_units decimal.digits decimal.exponent
  have low : (format.readBack pattern).Fits
      ((format.readBack pattern).low * gridScale decimal.exponent)
      (decimal.digits * format.gridStep decimal.exponent) := point ▸ reads.low
  have high : (format.readBack pattern).Fits
      (decimal.digits * format.gridStep decimal.exponent)
      ((format.readBack pattern).high * gridScale decimal.exponent) := point ▸ reads.high
  have start := Nat.mul_pos (@low_readBack_pos format _ positive)
    (gridScale_pos decimal.exponent)
  rw [onGrid_eq]
  generalize (format.readBack pattern).value * gridScale decimal.exponent = value
  generalize value / format.gridStep decimal.exponent = below
  have nonzero (fits : (format.readBack pattern).Fits
      ((format.readBack pattern).low * gridScale decimal.exponent)
      (below * format.gridStep decimal.exponent)) : below ≠ 0 := by
    rintro rfl
    have least := fits.le
    rw [Nat.zero_mul] at least
    exact Nat.not_lt.mpr least start
  split
  · rename_i both
    split
    · exact ⟨below, nonzero both.1, rfl⟩
    · split
      · exact ⟨below, nonzero both.1, rfl⟩
      · exact ⟨below + 1, Nat.succ_ne_zero below, rfl⟩
  · split
    · rename_i lowFits
      exact ⟨below, nonzero lowFits, rfl⟩
    · rename_i lowMissed
      have highFits : (format.readBack pattern).Fits
          ((below + 1) * format.gridStep decimal.exponent)
          ((format.readBack pattern).high * gridScale decimal.exponent) := by
        refine .le_trans (Nat.mul_le_mul_right _ (Nat.lt_of_not_le fun le => ?_)) high
        exact lowMissed (low.trans_le (Nat.mul_le_mul_right _ le))
      rw [if_pos highFits]
      exact ⟨below + 1, Nat.succ_ne_zero below, rfl⟩

/-- The grids that the search has left behind have no point that reads back. -/
theorem onGrid_ne_of_coarser {tie : TieRule} {interval : ReadBack} {fuel : Nat}
    {exponent coarser : Int}
    (coarse : (format.shortestFrom tie interval fuel exponent).exponent < coarser)
    (searched : coarser ≤ exponent) {digits : Nat} (nonzero : digits ≠ 0) :
    format.onGrid tie interval coarser ≠ some digits := by
  induction fuel generalizing exponent with
  | zero => exact absurd coarse (Int.not_lt.mpr searched)
  | succ fuel ih =>
      rw [shortestFrom] at coarse
      rcases Int.lt_or_eq_of_le searched with later | rfl
      · have searched' : coarser ≤ exponent - 1 := Int.le_sub_one_of_lt later
        cases found : format.onGrid tie interval exponent with
        | none =>
            rw [found] at coarse
            exact ih coarse searched'
        | some own =>
            rw [found] at coarse
            dsimp only at coarse
            split at coarse
            · exact ih coarse searched'
            · exact absurd coarse (Int.not_lt.mpr searched)
      · intro found
        rw [found] at coarse
        dsimp only at coarse
        rw [if_neg nonzero] at coarse
        exact absurd coarse (Int.lt_irrefl _)

/-- The gap behind a positive number is not larger than the number. -/
theorem gap_le_units (positive : 0 < pattern) : format.gap pattern ≤ format.units pattern := by
  induction pattern using format.pattern_cases with
  | subnormal fraction below =>
      rw [gap_subnormal below, units_subnormal below]
      exact positive
  | normal shift fraction below =>
      rw [gap_normal below, units_normal below]
      exact Nat.le_mul_of_pos_left _ (Nat.add_pos_left (twoTo_pos _) _)

/-- **The grids above the searched ones have no point that reads back.** -/
theorem exponent_le_gridAbove (positive : 0 < pattern) (reads : format.Reads pattern decimal) :
    decimal.exponent ≤ format.gridAbove pattern := by
  refine Int.not_lt.mp fun above => ?_
  have digits := Nat.pos_of_ne_zero (digits_ne_zero_of_reads positive reads)
  have most := reads.high.le
  have next := format.units_succ pattern
  have gap := @gap_le_units format _ positive
  rw [show (-decimal.exponent).toNat = 0 by omega, show tenTo 0 = 1 from rfl, Nat.mul_one,
    high_readBack] at most
  have size : format.units pattern < twoTo (format.gridAbove pattern + format.unitExponent) :=
    Nat.lt_of_lt_of_le Nat.lt_log2_self (twoTo_le (by rw [gridAbove]; omega))
  have point : 10 * twoTo (format.gridAbove pattern + format.unitExponent) ≤
      decimal.units format := by
    calc 10 * twoTo (format.gridAbove pattern + format.unitExponent)
        ≤ tenTo 1 * (tenTo (format.gridAbove pattern) * twoTo format.unitExponent) := by
          rw [twoTo_add]
          exact Nat.mul_le_mul_left 10 (Nat.mul_le_mul_right _ (twoTo_le_tenTo _))
      _ = 1 * twoTo format.unitExponent * tenTo (1 + format.gridAbove pattern) := by
          rw [tenTo_add, Nat.one_mul, ← Nat.mul_assoc, Nat.mul_comm]
      _ ≤ decimal.units format := by
          refine Nat.mul_le_mul (Nat.mul_le_mul_right _ digits) (tenTo_le ?_)
          omega
  omega

/-- **The shortest decimal lies on the coarsest grid that has a point which reads back.** -/
theorem exponent_le_shortest (tie : TieRule) (positive : 0 < pattern)
    (reads : format.Reads pattern decimal) :
    decimal.exponent ≤ (format.shortest tie pattern).exponent := by
  refine Int.not_lt.mp fun coarse => ?_
  obtain ⟨digits, nonzero, found⟩ := exists_onGrid_of_reads tie positive reads
  exact onGrid_ne_of_coarser coarse (exponent_le_gridAbove positive reads) nonzero found

/-- **No decimal with fewer digits reads back.** -/
theorem length_shortest_le (tie : TieRule) (positive : 0 < pattern)
    (below : pattern < twoTo format.patternBits) (reads : format.Reads pattern decimal) :
    (decimalDigits (format.shortest tie pattern).digits).length ≤
      (decimalDigits decimal.digits).length := by
  obtain ⟨own, nonzero⟩ := reads_shortest tie positive below
  have coarsest {decimal : Decimal} (reads : format.Reads pattern decimal) :=
    exponent_le_shortest tie positive reads
  have least := (digits_bounds nonzero).1
  have most := (digits_bounds (digits_ne_zero_of_reads positive reads)).2
  have written : 0 < (decimalDigits decimal.digits).length := Nat.length_toDigits_pos
  generalize format.shortest tie pattern = shortest at own least coarsest ⊢
  refine Nat.le_of_not_lt fun fewer => ?_
  -- the least number with as many digits as the shortest decimal, on the same grid, is in between
  have small : decimal.digits ≤ tenTo ((decimalDigits shortest.digits).length - 1) :=
    Nat.le_trans (Nat.le_of_lt most) (tenTo_le (by omega))
  have power := reads.between own (Decimal.isAtMost_power (coarsest reads) small)
    (Decimal.power_isAtMost least)
  have coarser := coarsest power
  dsimp only at coarser
  omega

end Reads

end BinaryFormat

namespace BinaryFloat

variable {format : BinaryFormat}

/-- **A finite float is written with the fewest digits**: every decimal that is rounded to it has at
least as many. -/
theorem length_written_le (wide : 0 < format.fractionBits) {x : BinaryFloat format}
    (finite : x.isFinite = true) {decimal : Decimal}
    (nearest : decimal.nearest format = x.pattern) :
    (decimalDigits x.written.digits).length ≤ (decimalDigits decimal.digits).length := by
  have inRange : x.pattern < format.infinity := of_decide_eq_true finite
  rw [written, isZero]
  split
  · exact Nat.length_toDigits_pos
  · rename_i nonzero
    have positive : 0 < x.pattern :=
      Nat.pos_of_ne_zero fun zero => nonzero (beq_iff_eq.mpr zero)
    exact BinaryFormat.length_shortest_le .up positive x.pattern_lt
      ((BinaryFormat.round_eq_iff wide (tenTo_pos _) inRange).mp nearest)

end BinaryFloat

end NamedConstants
