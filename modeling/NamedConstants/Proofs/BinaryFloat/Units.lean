import NamedConstants.BinaryFloat.Basic

/-!
# Patterns and their size

A pattern is either subnormal, and then its fraction is its size, or its exponent
field says by which power of two a significand is scaled (`pattern_cases`). From
one pattern to the next the size grows by the gap, also where the exponent
changes (`units_succ`); so patterns are ordered like their sizes
(`units_lt_units`), and every significand of the right width, scaled by a power of
two, is the size of a pattern (`exists_units_eq`).
-/

set_option autoImplicit false

namespace NamedConstants.BinaryFormat

variable (format : BinaryFormat)

/-! ## The two sorts of patterns -/

/-- A pattern is subnormal, or it consists of an exponent field that is not zero
and a fraction. -/
@[elab_as_elim]
theorem pattern_cases {motive : Nat → Prop} (pattern : Nat)
    (subnormal : ∀ fraction < twoTo format.fractionBits, motive fraction)
    (normal : ∀ shift, ∀ fraction < twoTo format.fractionBits,
      motive ((shift + 1) * twoTo format.fractionBits + fraction)) : motive pattern := by
  have below := Nat.mod_lt pattern (twoTo_pos format.fractionBits)
  have fields := Nat.div_add_mod' pattern (twoTo format.fractionBits)
  cases exponent : pattern / twoTo format.fractionBits with
  | zero =>
      rw [exponent, Nat.zero_mul, Nat.zero_add] at fields
      exact fields ▸ subnormal _ below
  | succ shift =>
      rw [exponent] at fields
      exact fields ▸ normal shift _ below

section Fields

variable {format} {fraction : Nat} (below : fraction < twoTo format.fractionBits)

include below

theorem normal_div (exponent : Nat) :
    (exponent * twoTo format.fractionBits + fraction) / twoTo format.fractionBits = exponent := by
  rw [Nat.mul_comm, Nat.mul_add_div (twoTo_pos _), Nat.div_eq_of_lt below, Nat.add_zero]

theorem normal_mod (exponent : Nat) :
    (exponent * twoTo format.fractionBits + fraction) % twoTo format.fractionBits = fraction := by
  rw [Nat.mul_comm, Nat.mul_add_mod, Nat.mod_eq_of_lt below]

theorem units_subnormal : format.units fraction = fraction := by
  rw [units, Nat.div_eq_of_lt below, Nat.mod_eq_of_lt below, if_pos rfl]

theorem gap_subnormal : format.gap fraction = 1 := by
  rw [gap, Nat.div_eq_of_lt below]

theorem units_normal (shift : Nat) :
    format.units ((shift + 1) * twoTo format.fractionBits + fraction) =
      (twoTo format.fractionBits + fraction) * twoTo shift := by
  rw [units, normal_div below, normal_mod below]
  exact if_neg (Nat.succ_ne_zero shift)

theorem gap_normal (shift : Nat) :
    format.gap ((shift + 1) * twoTo format.fractionBits + fraction) = twoTo shift := by
  rw [gap, normal_div below, Nat.add_sub_cancel]

end Fields

/-- A pattern with a significand of full width is normal. -/
theorem units_of_significand {significand : Nat} (least : twoTo format.fractionBits ≤ significand)
    (most : significand < twoTo (format.fractionBits + 1)) (shift : Nat) :
    format.units (shift * twoTo format.fractionBits + significand) = significand * twoTo shift ∧
      format.gap (shift * twoTo format.fractionBits + significand) = twoTo shift := by
  rw [twoTo_succ] at most
  have below : significand - twoTo format.fractionBits < twoTo format.fractionBits := by omega
  have split : shift * twoTo format.fractionBits + significand =
      (shift + 1) * twoTo format.fractionBits + (significand - twoTo format.fractionBits) := by
    rw [Nat.add_mul, Nat.one_mul]
    omega
  rw [split, units_normal below, gap_normal below, Nat.add_sub_cancel' least]
  exact ⟨rfl, rfl⟩

/-! ## The order of patterns -/

theorem gap_pos (pattern : Nat) : 0 < format.gap pattern :=
  twoTo_pos _

/-- **The size grows by the gap from one pattern to the next.** -/
theorem units_succ (pattern : Nat) :
    format.units (pattern + 1) = format.units pattern + format.gap pattern := by
  induction pattern using format.pattern_cases with
  | subnormal fraction below =>
      rw [units_subnormal below, gap_subnormal below]
      rcases Nat.lt_or_eq_of_le (Nat.succ_le_of_lt below) with inside | carry
      · exact units_subnormal inside
      · have full := units_normal (twoTo_pos format.fractionBits) 0
        rw [Nat.zero_add, Nat.one_mul, Nat.add_zero] at full
        rw [Nat.succ_eq_add_one] at carry
        rw [carry, full]
        exact Nat.mul_one _
  | normal shift fraction below =>
      rw [units_normal below, gap_normal below]
      rcases Nat.lt_or_eq_of_le (Nat.succ_le_of_lt below) with inside | carry
      · rw [Nat.add_assoc, units_normal inside, Nat.succ_eq_add_one, ← Nat.add_assoc, Nat.add_mul,
          Nat.one_mul]
      · have full := units_normal (twoTo_pos format.fractionBits) (shift + 1)
        rw [Nat.add_zero] at full
        have next : (shift + 1) * twoTo format.fractionBits + fraction + 1 =
            (shift + 1 + 1) * twoTo format.fractionBits := by
          rw [Nat.add_assoc, ← Nat.succ_eq_add_one fraction, carry, Nat.add_mul (shift + 1),
            Nat.one_mul]
        rw [next, full, Nat.add_zero, twoTo_succ, ← Nat.succ_mul, ← Nat.add_succ, carry,
          Nat.mul_left_comm, ← Nat.mul_assoc, Nat.two_mul]

theorem units_lt_units {first second : Nat} (lt : first < second) :
    format.units first < format.units second := by
  induction lt with
  | refl =>
      rw [Nat.succ_eq_add_one, units_succ]
      exact Nat.lt_add_of_pos_right (format.gap_pos first)
  | @step second _ ih =>
      rw [Nat.succ_eq_add_one, units_succ]
      exact Nat.lt_add_right _ ih

theorem units_le_units {first second : Nat} (le : first ≤ second) :
    format.units first ≤ format.units second := by
  rcases Nat.lt_or_eq_of_le le with lt | rfl
  · exact Nat.le_of_lt (format.units_lt_units lt)
  · exact Nat.le_refl _

variable {format}

theorem lt_of_units_lt {first second : Nat} (lt : format.units first < format.units second) :
    first < second :=
  Nat.lt_of_not_le fun le => Nat.not_lt.mpr (format.units_le_units le) lt

theorem units_inj {first second : Nat} (same : format.units first = format.units second) :
    first = second := by
  rcases Nat.lt_trichotomy first second with lt | rfl | lt
  · exact absurd same (Nat.ne_of_lt (format.units_lt_units lt))
  · rfl
  · exact absurd same.symm (Nat.ne_of_lt (format.units_lt_units lt))

variable (format)

@[simp] theorem units_zero : format.units 0 = 0 :=
  units_subnormal (twoTo_pos _)

theorem units_pos {pattern : Nat} (positive : 0 < pattern) : 0 < format.units pattern := by
  have growth := format.units_lt_units positive
  rwa [units_zero] at growth

/-- The size that the pattern behind all patterns would have. -/
theorem units_patternBits :
    format.units (twoTo format.patternBits) =
      twoTo (format.fractionBits + (twoTo format.exponentBits - 1)) := by
  obtain ⟨shift, fields⟩ : ∃ shift, twoTo format.exponentBits = shift + 1 :=
    Nat.exists_eq_succ_of_ne_zero (Nat.ne_of_gt (twoTo_pos _))
  rw [patternBits, twoTo_add, fields, ← Nat.add_zero ((shift + 1) * twoTo format.fractionBits),
    units_normal (twoTo_pos _), Nat.add_zero, Nat.add_sub_cancel, twoTo_add]

/-- **A significand scaled by a power of two is the size of a pattern.** -/
theorem exists_units_eq {significand : Nat} (fits : significand < twoTo (format.fractionBits + 1))
    (shift : Nat) : ∃ pattern, format.units pattern = significand * twoTo shift := by
  induction shift generalizing significand with
  | zero =>
      rcases Nat.lt_or_ge significand (twoTo format.fractionBits) with small | large
      · exact ⟨significand, (units_subnormal small).trans (Nat.mul_one _).symm⟩
      · exact ⟨_, (format.units_of_significand large fits 0).1⟩
  | succ shift ih =>
      rcases Nat.lt_or_ge significand (twoTo format.fractionBits) with small | large
      · -- a short significand is doubled until it has the full width
        have doubled : 2 * significand < twoTo (format.fractionBits + 1) := by
          rw [twoTo_succ]
          omega
        obtain ⟨pattern, size⟩ := ih doubled
        refine ⟨pattern, size.trans ?_⟩
        rw [twoTo_succ, Nat.mul_left_comm, Nat.mul_assoc]
      · exact ⟨_, (format.units_of_significand large fits (shift + 1)).1⟩

end NamedConstants.BinaryFormat
