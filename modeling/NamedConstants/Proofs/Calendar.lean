import NamedConstants.Calendar

/-!
# Dates and days

Every day has a date that exists and that is the date of this day only: the
year found for a day holds it (`yearOf_holds`), the walk through the months of
the year finds the month and the day of the month (`monthAndDay_spec`), and
counting the days of the date gives the day back (`toDays_ofDays`).
-/

set_option autoImplicit false

namespace NamedConstants.Calendar

/-! ## Years -/

/-- The number of days of a year. -/
def yearLength (year : Int) : Nat :=
  if isLeapYear year then 366 else 365

theorem isLeapYear_iff (year : Int) :
    isLeapYear year = true ↔ year % 4 = 0 ∧ (year % 100 ≠ 0 ∨ year % 400 = 0) := by
  simp only [isLeapYear, Bool.and_eq_true, Bool.or_eq_true, beq_iff_eq, bne_iff_ne]

theorem yearStart_add_one (year : Int) :
    yearStart (year + 1) = yearStart year + yearLength year := by
  by_cases leap : isLeapYear year = true
  · have rule := (isLeapYear_iff year).mp leap
    simp only [yearStart, yearLength, leap, if_true]
    omega
  · have rule := mt (isLeapYear_iff year).mpr leap
    rw [yearLength, if_neg leap]
    simp only [yearStart]
    omega

/-- **The year found for a day holds it.** -/
theorem yearOf_holds (days : Int) :
    yearStart (yearOf days) ≤ days ∧ days < yearStart (yearOf days + 1) := by
  -- the quotient names the right year or one next to it, whichever test fails
  simp only [yearOf]
  split
  · next below =>
    refine ⟨?_, by rw [Int.sub_add_cancel]; exact below⟩
    simp only [yearStart]
    omega
  · next notBelow =>
    split
    · next above =>
      refine ⟨above, ?_⟩
      simp only [yearStart]
      omega
    · next notAbove => exact ⟨by omega, by omega⟩

/-! ## Months -/

theorem sum_monthLengths (year : Int) : (monthLengths year).foldr (· + ·) 0 = yearLength year := by
  cases leap : isLeapYear year <;> simp only [monthLengths, yearLength, leap] <;> rfl

/-- The walk through months stops in the month that holds the day. -/
theorem monthAndDay_spec (lengths : List Nat) (month day : Nat)
    (inside : day < lengths.foldr (· + ·) 0) :
    ∃ index rest length, monthAndDay lengths month day = (month + index, rest + 1) ∧
      lengths[index]? = some length ∧ rest < length ∧
        ((lengths.take index).foldr (· + ·) 0) + rest = day := by
  induction lengths generalizing month day with
  | nil => exact absurd inside (Nat.not_lt_zero day)
  | cons first lengths ih =>
      rw [monthAndDay]
      split
      · next here => exact ⟨0, day, first, rfl, rfl, here, Nat.zero_add day⟩
      · next later =>
        rw [List.foldr_cons] at inside
        obtain ⟨index, rest, length, walk, held, short, count⟩ :=
          ih (month + 1) (day - first) (by omega)
        refine ⟨index + 1, rest, length, ?_, held, short, ?_⟩
        · rw [walk, Nat.add_assoc, Nat.add_comm 1 index]
        · rw [List.take_succ_cons, List.foldr_cons]
          omega

/-! ## Dates -/

/-- The date of a day in terms of the walk through its year. -/
theorem ofDays_spec (days : Int) :
    ∃ index rest length : Nat, Date.ofDays days = ⟨yearOf days, 1 + index, rest + 1⟩ ∧
      (monthLengths (yearOf days))[index]? = some length ∧ rest < length ∧
        yearStart (yearOf days) +
          (((monthLengths (yearOf days)).take index).foldr (· + ·) 0 + rest : Nat) = days := by
  obtain ⟨starts, ends⟩ := yearOf_holds days
  rw [yearStart_add_one] at ends
  have inside : (days - yearStart (yearOf days)).toNat <
      (monthLengths (yearOf days)).foldr (· + ·) 0 := by
    rw [sum_monthLengths]
    omega
  obtain ⟨index, rest, length, walk, held, short, count⟩ :=
    monthAndDay_spec (monthLengths (yearOf days)) 1 _ inside
  refine ⟨index, rest, length, ?_, held, short, ?_⟩
  · simp only [Date.ofDays, walk]
  · rw [count]
    omega

/-- **Counting the days of the date of a day gives the day.** -/
theorem toDays_ofDays (days : Int) : (Date.ofDays days).toDays = days := by
  obtain ⟨index, rest, length, date, _, _, count⟩ := ofDays_spec days
  rw [date]
  simp only [Date.toDays, Date.daysBefore, Nat.add_sub_cancel_left]
  omega

/-- **The date of a day exists.** -/
theorem isValid_ofDays (days : Int) : (Date.ofDays days).isValid = true := by
  obtain ⟨index, rest, length, date, held, short, _⟩ := ofDays_spec days
  rw [date]
  simp only [Date.isValid, Nat.add_sub_cancel_left, held, Bool.and_eq_true, decide_eq_true_eq]
  omega

theorem ofDays_injective {first second : Int} (same : Date.ofDays first = Date.ofDays second) :
    first = second := by
  rw [← toDays_ofDays first, same, toDays_ofDays]

end NamedConstants.Calendar
