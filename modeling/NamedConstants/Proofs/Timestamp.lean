import NamedConstants.Proofs.Calendar
import NamedConstants.Proofs.Text.DecimalDigits
import NamedConstants.Timestamp.Text

/-!
# The text of a point in time

Nanoseconds beyond the second that stand elsewhere than in a leap second are
written as if they belonged to the second after it, so a point in time shares its
text with the one that it is written as (`toText_asWritten`). Apart from that the
text determines the point in time (`toText_eq_iff`). Each part of it is a run of
digits that ends at a character of another sort, so the parts can be told apart
from left to right; the date determines the day, and the second 60 tells a leap
second from the second before it.
-/

set_option autoImplicit false

namespace NamedConstants.Timestamp

open BinaryFloat (digitsValue)

/-! ## Padded numbers -/

theorem allDigits_padded (width n : Nat) : AllDigits (padded width n) :=
  (AllDigits.replicate_zero _).append (allDigits_decimalDigits n)

/-- Zeros in front do not change the number. -/
theorem digitsValue_padded (width n : Nat) : digitsValue (padded width n) = n := by
  rw [digitsValue_eq, padded, Nat.ofDigitChars_append, Nat.ofDigitChars_replicate_zero,
    Nat.mul_zero]
  exact digitsValue_decimalDigits n

theorem padded_injective {width first second : Nat}
    (same : padded width first = padded width second) : first = second := by
  rw [← digitsValue_padded width first, same, digitsValue_padded]

theorem length_padded {width n : Nat} (positive : 0 < width) (fits : n < tenTo width) :
    (padded width n).length = width := by
  have short : (decimalDigits n).length ≤ width :=
    (Nat.length_toDigits_le_iff (by decide) positive).mpr fits
  rw [padded, List.length_append, List.length_replicate]
  omega

/-- A padded number in front of a character of another sort. -/
theorem padded_append_inj {width first second : Nat} {c : Char} {rest rest' : List Char}
    (other : c.isDigit = false)
    (same : padded width first ++ c :: rest = padded width second ++ c :: rest') :
    first = second ∧ rest = rest' := by
  obtain ⟨digits, more⟩ := digits_append_inj (allDigits_padded width first)
    (allDigits_padded width second) (.cons other) (.cons other) same
  exact ⟨padded_injective digits, (List.cons.inj more).2⟩

/-- A padded number starts with a digit. -/
theorem padded_append_ne_cons {width n : Nat} {c : Char} {rest rest' : List Char}
    (other : c.isDigit = false) : padded width n ++ rest ≠ c :: rest' := by
  intro same
  have nonempty : padded width n ≠ [] :=
    List.append_ne_nil_of_right_ne_nil _ (decimalDigits_ne_nil n)
  obtain ⟨first, more, digits⟩ := List.exists_cons_of_ne_nil nonempty
  have isDigit : first.isDigit = true :=
    allDigits_padded width n first (by rw [digits]; exact .head _)
  rw [digits, List.cons_append] at same
  rw [(List.cons.inj same).1, other] at isDigit
  exact Bool.false_ne_true isDigit

/-! ## Years -/

/-- The sign in front of a year beyond four digits. -/
def yearSign (year : Int) : Char :=
  if year < 0 then '-' else '+'

theorem isDigit_yearSign (year : Int) : (yearSign year).isDigit = false := by
  rw [yearSign]
  split <;> rfl

theorem yearText_short {year : Int} (short : 0 ≤ year ∧ year ≤ 9999) :
    yearText year = padded 4 year.toNat := if_pos short

theorem yearText_long {year : Int} (long : ¬(0 ≤ year ∧ year ≤ 9999)) :
    yearText year = yearSign year :: padded 4 year.natAbs := if_neg long

/-- A year in front of a hyphen. -/
theorem yearText_append_inj {first second : Int} {rest rest' : List Char}
    (same : yearText first ++ '-' :: rest = yearText second ++ '-' :: rest') :
    first = second ∧ rest = rest' := by
  by_cases short : 0 ≤ first ∧ first ≤ 9999 <;> by_cases short' : 0 ≤ second ∧ second ≤ 9999
  · rw [yearText_short short, yearText_short short'] at same
    obtain ⟨number, more⟩ := padded_append_inj (by decide) same
    exact ⟨by omega, more⟩
  · rw [yearText_short short, yearText_long short', List.cons_append] at same
    exact absurd same (padded_append_ne_cons (isDigit_yearSign second))
  · rw [yearText_long short, yearText_short short', List.cons_append] at same
    exact absurd same.symm (padded_append_ne_cons (isDigit_yearSign first))
  · rw [yearText_long short, yearText_long short', List.cons_append, List.cons_append] at same
    obtain ⟨signs, digits⟩ := List.cons.inj same
    obtain ⟨number, more⟩ := padded_append_inj (by decide) digits
    refine ⟨?_, more⟩
    by_cases negative : first < 0 <;> by_cases negative' : second < 0
    · omega
    · rw [yearSign, yearSign, if_pos negative, if_neg negative'] at signs
      exact absurd signs (by decide)
    · rw [yearSign, yearSign, if_neg negative, if_pos negative'] at signs
      exact absurd signs (by decide)
    · omega

/-! ## Fractions of a second -/

/-- The nanoseconds that the written fraction stands for. -/
def fractionValue : List Char → Nat
  | [] => 0
  | _ :: digits => digitsValue digits * tenTo (9 - digits.length)

/-- The digits of a fraction stand for its leading part. -/
theorem fractionValue_padded {width n : Nat} (positive : 0 < width) (fits : n < tenTo width) :
    fractionValue ('.' :: padded width n) = n * tenTo (9 - width) := by
  rw [fractionValue, digitsValue_padded, length_padded positive fits]

theorem fractionValue_fractionText {nanos : Nat} (below : nanos < 1000000000) :
    fractionValue (fractionText nanos) = nanos := by
  rw [fractionText]
  split
  · next zero => rw [zero, fractionValue]
  split
  · next millis =>
    have fits : nanos / 1000000 < 1000 := by omega
    rw [fractionValue_padded (by decide) fits]
    exact Nat.div_mul_cancel (Nat.dvd_of_mod_eq_zero millis)
  split
  · next micros =>
    have fits : nanos / 1000 < 1000000 := by omega
    rw [fractionValue_padded (by decide) fits]
    exact Nat.div_mul_cancel (Nat.dvd_of_mod_eq_zero micros)
  · rw [fractionValue_padded (by decide) below]
    exact Nat.mul_one nanos

theorem fractionText_injective {first second : Nat} (below : first < 1000000000)
    (below' : second < 1000000000) (same : fractionText first = fractionText second) :
    first = second := by
  rw [← fractionValue_fractionText below, same, fractionValue_fractionText below']

/-! ## Points in time -/

/-- The nanoseconds behind the written second. -/
def writtenNanos (t : Timestamp) : Nat :=
  if 1000000000 ≤ t.nanos then t.nanos - 1000000000 else t.nanos

/-- The second of the minute as it is written: 60 for a leap second. -/
def writtenSecond (t : Timestamp) : Nat :=
  t.secondOfDay % 60 + if 1000000000 ≤ t.nanos then 1 else 0

theorem toText_eq (t : Timestamp) :
    t.toText = yearText t.date.year ++ '-' :: (padded 2 t.date.month ++ '-' ::
      (padded 2 t.date.day ++ 'T' :: (padded 2 (t.secondOfDay / 3600) ++ ':' ::
        (padded 2 (t.secondOfDay / 60 % 60) ++ ':' ::
          (padded 2 t.writtenSecond ++ (fractionText t.writtenNanos ++ ['Z'])))))) := by
  simp only [toText, writtenSecond, writtenNanos, List.append_assoc, List.cons_append]

theorem writtenNanos_lt (t : Timestamp) : t.writtenNanos < 1000000000 := by
  obtain ⟨_, _, below⟩ := t.isTimestamp
  rw [writtenNanos]
  split <;> omega

/-- The nanoseconds beyond the second, if there are any, stand in a leap second. -/
def IsSettled (t : Timestamp) : Prop :=
  IsOnClock t.seconds t.nanos

instance (t : Timestamp) : Decidable t.IsSettled :=
  inferInstanceAs (Decidable (IsOnClock _ _))

/-- The last second is that of a minute, so there is one after every other second of a minute. -/
theorem isTimestamp_next {seconds : Int} {nanos : Nat} (held : IsTimestamp seconds nanos)
    (early : seconds % 60 ≠ 59) : IsTimestamp (seconds + 1) (nanos - 1000000000) := by
  obtain ⟨first, last, below⟩ := held
  have minute : lastSecond % 60 = 59 := rfl
  refine ⟨by omega, ?_, by omega⟩
  by_cases same : seconds = lastSecond
  · exact absurd (same ▸ minute) early
  · omega

/-- The point in time that the text stands for. Nanoseconds beyond the second count as those of
the second after it, unless they stand in a leap second. -/
def asWritten (t : Timestamp) : Timestamp :=
  if early : 1000000000 ≤ t.nanos ∧ t.seconds % 60 ≠ 59 then
    ⟨t.seconds + 1, t.nanos - 1000000000, isTimestamp_next t.isTimestamp early.2⟩
  else t

theorem asWritten_of_isSettled {t : Timestamp} (settled : t.IsSettled) : t.asWritten = t :=
  dif_neg fun early => early.2 (settled early.1)

theorem asWritten_of_early {t : Timestamp} (early : 1000000000 ≤ t.nanos ∧ t.seconds % 60 ≠ 59) :
    t.asWritten.seconds = t.seconds + 1 ∧ t.asWritten.nanos = t.nanos - 1000000000 := by
  rw [asWritten, dif_pos early]
  exact ⟨rfl, rfl⟩

/-- Nanoseconds that are not settled stand in another second than the last of a minute. -/
theorem not_isSettled_iff {t : Timestamp} :
    ¬t.IsSettled ↔ 1000000000 ≤ t.nanos ∧ t.seconds % 60 ≠ 59 :=
  Classical.not_imp

theorem isSettled_asWritten (t : Timestamp) : t.asWritten.IsSettled := by
  by_cases settled : t.IsSettled
  · rwa [asWritten_of_isSettled settled]
  · have early := not_isSettled_iff.mp settled
    have below := t.isTimestamp.2.2
    intro many
    rw [(asWritten_of_early early).2] at many
    omega

/-- **A point in time is written as itself exactly if its nanoseconds are settled.** -/
theorem asWritten_eq_self_iff {t : Timestamp} : t.asWritten = t ↔ t.IsSettled :=
  ⟨fun same => same ▸ t.isSettled_asWritten, asWritten_of_isSettled⟩

/-- The second after one within a minute lies on the same day. -/
theorem date_asWritten (t : Timestamp) : t.asWritten.date = t.date := by
  by_cases settled : t.IsSettled
  · rw [asWritten_of_isSettled settled]
  · have early := not_isSettled_iff.mp settled
    have day : t.asWritten.seconds / 86400 = t.seconds / 86400 := by
      rw [(asWritten_of_early early).1]
      omega
    rw [date, date, day]

/-- **A point in time has the text of the one that it is written as.** -/
theorem toText_asWritten (t : Timestamp) : t.asWritten.toText = t.toText := by
  by_cases settled : t.IsSettled
  · rw [asWritten_of_isSettled settled]
  · have early := not_isSettled_iff.mp settled
    have below := t.isTimestamp.2.2
    obtain ⟨next, rest⟩ := asWritten_of_early early
    have clock : t.asWritten.secondOfDay = t.secondOfDay + 1 := by
      rw [secondOfDay, secondOfDay, next]
      omega
    have minute : t.secondOfDay % 60 < 59 := by
      rw [secondOfDay]
      omega
    have nanos : t.asWritten.writtenNanos = t.writtenNanos := by
      rw [writtenNanos, writtenNanos, rest, if_neg (by omega), if_pos early.1]
    have second : t.asWritten.writtenSecond = t.writtenSecond := by
      rw [writtenSecond, writtenSecond, clock, rest, if_neg (by omega), if_pos early.1]
      omega
    have hours : t.asWritten.secondOfDay / 3600 = t.secondOfDay / 3600 := by
      rw [clock]
      omega
    have minutes : t.asWritten.secondOfDay / 60 % 60 = t.secondOfDay / 60 % 60 := by
      rw [clock]
      omega
    rw [toText_eq, toText_eq, date_asWritten, nanos, second, hours, minutes]

/-- A leap second is written as the second 60, and no other one is. -/
theorem writtenSecond_eq_sixty_iff {t : Timestamp} (settled : t.IsSettled) :
    t.writtenSecond = 60 ↔ 1000000000 ≤ t.nanos := by
  rw [writtenSecond, secondOfDay]
  split
  · next leap =>
    have second := settled leap
    exact ⟨fun _ => leap, fun _ => by omega⟩
  · next ordinary => exact ⟨fun sixty => by omega, fun leap => absurd leap ordinary⟩

theorem endsDigits_fraction (nanos : Nat) : EndsDigits (fractionText nanos ++ ['Z']) := by
  rw [fractionText]
  split
  · exact .cons (by decide)
  split
  · exact .cons (by decide)
  split <;> exact .cons (by decide)

/-- A point in time is its date, its second of the day and its nanoseconds. -/
theorem eq_of_date_of_clock {first second : Timestamp} (date : first.date = second.date)
    (clock : first.secondOfDay = second.secondOfDay) (nanos : first.nanos = second.nanos) :
    first = second := by
  have days := Calendar.ofDays_injective date
  have seconds : first.seconds = second.seconds := by
    rw [secondOfDay, secondOfDay] at clock
    omega
  cases first
  cases second
  simp only at seconds nanos
  subst seconds nanos
  rfl

/-- The text of a point in time with settled nanoseconds determines it. -/
theorem eq_of_toText_eq {first second : Timestamp} (settled : first.IsSettled)
    (settled' : second.IsSettled) (same : first.toText = second.toText) : first = second := by
  rw [toText_eq, toText_eq] at same
  obtain ⟨year, same⟩ := yearText_append_inj same
  obtain ⟨month, same⟩ := padded_append_inj (by decide) same
  obtain ⟨day, same⟩ := padded_append_inj (by decide) same
  obtain ⟨hour, same⟩ := padded_append_inj (by decide) same
  obtain ⟨minute, same⟩ := padded_append_inj (by decide) same
  obtain ⟨digits, tail⟩ := digits_append_inj (allDigits_padded 2 _) (allDigits_padded 2 _)
    (endsDigits_fraction _) (endsDigits_fraction _) same
  have clock := padded_injective digits
  have nanos := fractionText_injective first.writtenNanos_lt second.writtenNanos_lt
    (List.append_cancel_right tail)
  have leap : 1000000000 ≤ first.nanos ↔ 1000000000 ≤ second.nanos := by
    rw [← writtenSecond_eq_sixty_iff settled, ← writtenSecond_eq_sixty_iff settled', clock]
  have date : first.date = second.date := by
    cases equal : first.date
    cases equal' : second.date
    rw [equal, equal'] at year month day
    simp only at year month day
    rw [year, month, day]
  refine eq_of_date_of_clock date ?_ ?_
  · rw [writtenSecond, writtenSecond] at clock
    simp only [leap] at clock
    omega
  · rw [writtenNanos, writtenNanos] at nanos
    simp only [leap] at nanos
    split at nanos <;> omega

/-- **The text determines what a point in time is written as.** -/
theorem toText_eq_iff {first second : Timestamp} :
    first.toText = second.toText ↔ first.asWritten = second.asWritten := by
  constructor
  · intro same
    refine eq_of_toText_eq first.isSettled_asWritten second.isSettled_asWritten ?_
    rw [toText_asWritten, toText_asWritten, same]
  · intro same
    rw [← toText_asWritten first, same, toText_asWritten]

end NamedConstants.Timestamp
