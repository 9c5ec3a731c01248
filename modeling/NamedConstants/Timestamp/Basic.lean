import NamedConstants.Calendar

/-!
# Points in time

A timestamp counts seconds from the start of 1970 and nanoseconds behind the
second. A leap second has no number of its own: it is the second 59 of a minute
with a thousand million nanoseconds or more. A point in time may hold as many
behind every other second too, but it is not made of such parts.
-/

set_option autoImplicit false

namespace NamedConstants

/-- The number of the first of January 1970. -/
def epochDay : Int := Calendar.yearStart 1970

/-- The seconds of the years that timestamps cover. -/
def firstSecond : Int := (Calendar.yearStart (-262143) - epochDay) * 86400

/-- The last second that timestamps cover. -/
def lastSecond : Int := (Calendar.yearStart 262143 - epochDay) * 86400 - 1

/-- Seconds and nanoseconds denote a point in time. -/
def IsTimestamp (seconds : Int) (nanos : Nat) : Prop :=
  firstSecond ≤ seconds ∧ seconds ≤ lastSecond ∧ nanos < 2000000000

instance (seconds : Int) (nanos : Nat) : Decidable (IsTimestamp seconds nanos) :=
  inferInstanceAs (Decidable (_ ∧ _))

/-- A point in time. -/
structure Timestamp where
  seconds : Int
  nanos : Nat
  isTimestamp : IsTimestamp seconds nanos
  deriving DecidableEq

namespace Timestamp

/-- The start of 1970. -/
def epoch : Timestamp := ⟨0, 0, by decide⟩

/-- Nanoseconds of a thousand million or more stand in a leap second. -/
def IsOnClock (seconds : Int) (nanos : Nat) : Prop :=
  1000000000 ≤ nanos → seconds % 60 = 59

instance (seconds : Int) (nanos : Nat) : Decidable (IsOnClock seconds nanos) :=
  inferInstanceAs (Decidable (_ → _))

/-- The point in time that is made of the given parts, if there is one. -/
def ofParts? (seconds : Int) (nanos : Nat) : Option Timestamp :=
  if h : IsTimestamp seconds nanos ∧ IsOnClock seconds nanos then some ⟨seconds, nanos, h.1⟩
  else none

/-- The date of a point in time. -/
def date (t : Timestamp) : Calendar.Date :=
  .ofDays (t.seconds / 86400 + epochDay)

/-- The second of the day, without leap seconds. -/
def secondOfDay (t : Timestamp) : Nat :=
  (t.seconds % 86400).toNat

end Timestamp

end NamedConstants
