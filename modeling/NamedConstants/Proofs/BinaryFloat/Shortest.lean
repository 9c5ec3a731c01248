import NamedConstants.Proofs.BinaryFloat.Rounding

/-!
# The shortest decimal reads back

A grid answers with a point only if the point lies in the interval of the number
(`reads_of_onGrid`). On the grid on which one unit is a whole number of steps the
number itself is a point (`exists_onGrid`), and the search reaches this grid
before its fuel is used up; so the decimal it ends with always reads back as the
number (`reads_shortest`).
-/

set_option autoImplicit false

namespace NamedConstants

/-- The units of a decimal, over the power of ten that makes them whole. -/
def Decimal.units (format : BinaryFormat) (decimal : Decimal) : Nat :=
  decimal.digits * twoTo format.unitExponent * tenTo decimal.exponent.toNat

namespace BinaryFormat

/-- The decimal lies in the interval of the pattern. -/
def Reads (format : BinaryFormat) (pattern : Nat) (decimal : Decimal) : Prop :=
  (format.readBack pattern).Holds (decimal.units format) (tenTo (-decimal.exponent).toNat)

variable {format : BinaryFormat}

/-! ## Points of a grid -/

/-- The distance of two points of a grid, in quarter units times the scale. -/
def gridStep (format : BinaryFormat) (exponent : Int) : Nat :=
  tenTo exponent.toNat * twoTo (format.unitExponent + 2)

/-- The power of ten that makes the points of a grid whole. -/
def gridScale (exponent : Int) : Nat :=
  tenTo (-exponent).toNat

theorem gridStep_pos (format : BinaryFormat) (exponent : Int) : 0 < format.gridStep exponent :=
  Nat.mul_pos (tenTo_pos _) (twoTo_pos _)

theorem gridScale_pos (exponent : Int) : 0 < gridScale exponent :=
  tenTo_pos _

/-- A point of the grid in quarter units. -/
theorem four_mul_units (format : BinaryFormat) (digits : Nat) (exponent : Int) :
    4 * Decimal.units format ⟨digits, exponent⟩ = digits * format.gridStep exponent := by
  rw [Decimal.units, gridStep, twoTo_add, show twoTo 2 = 4 from rfl]
  simp only [Nat.mul_comm, Nat.mul_left_comm]

/-- Only one of the two powers of a grid is not one. -/
theorem grid_powers (exponent : Int) (quarters : Nat) :
    (if 0 ≤ exponent then tenTo exponent.toNat * quarters else quarters) =
        tenTo exponent.toNat * quarters ∧
      (if 0 ≤ exponent then 1 else tenTo (-exponent).toNat) = gridScale exponent := by
  split
  case isTrue above =>
    have whole : (-exponent).toNat = 0 := by omega
    rw [gridScale, whole]
    exact ⟨rfl, rfl⟩
  case isFalse below =>
    have whole : exponent.toNat = 0 := by omega
    rw [whole]
    exact ⟨(Nat.one_mul _).symm, rfl⟩

section Neighbours

variable {tie : TieRule} {interval : ReadBack} {exponent : Int} {digits : Nat}

/-- A grid is searched for the nearer of the two neighbours that fit. -/
theorem onGrid_eq :
    let step := format.gridStep exponent
    let value := interval.value * gridScale exponent
    let below := value / step
    let lowFits := interval.Fits (interval.low * gridScale exponent) (below * step)
    let highFits := interval.Fits ((below + 1) * step) (interval.high * gridScale exponent)
    format.onGrid tie interval exponent =
      if lowFits ∧ highFits then
        if 2 * (value % step) < step then some below
        else if 2 * (value % step) = step ∧ tie = .even ∧ below % 2 = 0 then some below
        else some (below + 1)
      else if lowFits then some below
      else if highFits then some (below + 1)
      else none := by
  obtain ⟨step, scale⟩ := grid_powers exponent (twoTo (format.unitExponent + 2))
  unfold onGrid
  dsimp only
  rw [step, scale]
  rfl

/-- A grid answers with a neighbour of the number that fits. -/
theorem neighbour_of_onGrid (found : format.onGrid tie interval exponent = some digits) :
    let step := format.gridStep exponent
    let below := interval.value * gridScale exponent / step
    digits = below ∧ interval.Fits (interval.low * gridScale exponent) (below * step) ∨
      digits = below + 1 ∧ interval.Fits ((below + 1) * step) (interval.high * gridScale exponent) := by
  rw [onGrid_eq] at found
  intro step below
  split at found
  case isTrue both =>
    split at found
    · exact Or.inl ⟨(Option.some.inj found).symm, both.1⟩
    · split at found
      · exact Or.inl ⟨(Option.some.inj found).symm, both.1⟩
      · exact Or.inr ⟨(Option.some.inj found).symm, both.2⟩
  case isFalse =>
    split at found
    case isTrue low => exact Or.inl ⟨(Option.some.inj found).symm, low⟩
    case isFalse =>
      split at found
      case isTrue high => exact Or.inr ⟨(Option.some.inj found).symm, high⟩
      case isFalse => cases found

/-- A grid of which the number is a point answers with it. -/
theorem onGrid_of_point
    (point : interval.value * gridScale exponent = digits * format.gridStep exponent)
    (low : interval.low < interval.value) :
    format.onGrid tie interval exponent = some digits := by
  have positive := format.gridStep_pos exponent
  have lowFits : interval.Fits (interval.low * gridScale exponent)
      (digits * format.gridStep exponent) := by
    rw [← point]
    exact ReadBack.fits_of_lt (Nat.mul_lt_mul_of_pos_right low (gridScale_pos exponent))
  rw [onGrid_eq]
  simp only [point, Nat.mul_div_cancel _ positive, Nat.mul_mod_left, lowFits, positive, true_and,
    Nat.mul_zero, if_true]
  split
  · rfl
  · rfl

end Neighbours

/-! ## Points that read back -/

section Reads

variable {tie : TieRule} {pattern digits : Nat} {exponent : Int}

/-- **A point that a grid answers with reads back as the number.** -/
theorem reads_of_onGrid
    (found : format.onGrid tie (format.readBack pattern) exponent = some digits) :
    format.Reads pattern ⟨digits, exponent⟩ := by
  have point := format.four_mul_units digits exponent
  have positive := gridScale_pos exponent
  have value : (format.readBack pattern).value * gridScale exponent =
      4 * (format.units pattern * gridScale exponent) := Nat.mul_assoc _ _ _
  rcases neighbour_of_onGrid found with ⟨rfl, fits⟩ | ⟨rfl, fits⟩
  · have below := Nat.div_mul_le_self ((format.readBack pattern).value * gridScale exponent)
      (format.gridStep exponent)
    rw [← point] at fits below
    refine holds_below positive (by omega) fits.le fun same => ?_
    exact eq_of_beq (fits.inclusive_of_eq same)
  · have above := Nat.lt_succ_self
      ((format.readBack pattern).value * gridScale exponent / format.gridStep exponent)
    rw [Nat.div_lt_iff_lt_mul (format.gridStep_pos exponent), Nat.succ_eq_add_one] at above
    rw [← point] at fits above
    refine holds_above positive (by omega) fits.le fun same => ?_
    exact eq_of_beq (fits.inclusive_of_eq same)

/-- On the grid whose points are as close as units, the number is a point. -/
theorem exists_onGrid (format : BinaryFormat) (tie : TieRule) (positive : 0 < pattern) :
    ∃ digits, digits ≠ 0 ∧
      format.onGrid tie (format.readBack pattern) (-(format.unitExponent : Int)) = some digits := by
  have size := format.units_pos positive
  refine ⟨format.units pattern * fiveTo format.unitExponent, ?_, onGrid_of_point ?_ ?_⟩
  · exact Nat.ne_of_gt (Nat.mul_pos size (fiveTo_pos _))
  · have value : (format.readBack pattern).value = 4 * format.units pattern := rfl
    rw [value, gridScale, gridStep, Int.neg_neg, Int.toNat_natCast, Int.toNat_neg_natCast, tenTo_eq,
      twoTo_add, show tenTo 0 = 1 from rfl, show twoTo 2 = 4 from rfl, Nat.one_mul]
    simp only [Nat.mul_assoc, Nat.mul_comm, Nat.mul_left_comm]
  · obtain ⟨before, rfl⟩ : ∃ before, pattern = before + 1 := ⟨pattern - 1, by omega⟩
    exact format.low_readBack_lt_units before

/-- **The search ends with a decimal that reads back**, since the finest grid that
may be needed is reached before the fuel is used up. -/
theorem reads_shortestFrom (positive : 0 < pattern) {fuel : Nat}
    (least : -(format.unitExponent : Int) ≤ exponent)
    (enough : exponent + format.unitExponent < fuel) :
    format.Reads pattern (format.shortestFrom tie (format.readBack pattern) fuel exponent) ∧
      (format.shortestFrom tie (format.readBack pattern) fuel exponent).digits ≠ 0 := by
  induction fuel generalizing exponent with
  | zero => omega
  | succ fuel ih =>
      have further (missed : ∀ digits, digits ≠ 0 →
          format.onGrid tie (format.readBack pattern) exponent ≠ some digits) :
          -(format.unitExponent : Int) ≤ exponent - 1 := by
        obtain ⟨digits, nonzero, found⟩ := format.exists_onGrid tie positive
        have coarser : exponent ≠ -(format.unitExponent : Int) := by
          rintro rfl
          exact missed digits nonzero found
        omega
      rw [shortestFrom]
      cases found : format.onGrid tie (format.readBack pattern) exponent with
      | none => exact ih (further (by simp [found])) (by omega)
      | some digits =>
          dsimp only
          split
          case isTrue zero =>
            refine ih (further ?_) (by omega)
            intro other nonzero same
            rw [found, zero] at same
            exact nonzero (Option.some.inj same).symm
          case isFalse nonzero => exact ⟨reads_of_onGrid found, nonzero⟩

/-- A number is below the grids that are not searched. -/
theorem gridAbove_lt (positive : 0 < pattern) (below : pattern < twoTo format.patternBits) :
    format.gridAbove pattern < twoTo format.exponentBits := by
  have fields := twoTo_pos format.exponentBits
  have smaller := format.units_lt_units below
  rw [units_patternBits] at smaller
  have width := (Nat.log2_lt (Nat.ne_of_gt (format.units_pos positive))).mpr smaller
  have unit : format.fractionBits ≤ format.unitExponent := Nat.le_add_left _ _
  rw [gridAbove]
  omega

/-- **The shortest decimal of a positive number reads back as the number.** The patterns
of infinity and of what is not a number have an interval, too. -/
theorem reads_shortest (tie : TieRule) (positive : 0 < pattern)
    (below : pattern < twoTo format.patternBits) :
    format.Reads pattern (format.shortest tie pattern) ∧ (format.shortest tie pattern).digits ≠ 0 := by
  have searched := gridAbove_lt positive below
  exact reads_shortestFrom positive (by omega) (by omega)

end Reads

end BinaryFormat

end NamedConstants
