/-!
# The Gregorian calendar

Days are counted from the first of January of the year one, which is day zero;
the rules are extended without a break to earlier and later years. The month of
a day is found by walking through the months of its year.
-/

set_option autoImplicit false

namespace NamedConstants.Calendar

/-- Every fourth year has an additional day, but of the full centuries only
every fourth one. -/
def isLeapYear (year : Int) : Bool :=
  year % 4 == 0 && (year % 100 != 0 || year % 400 == 0)

/-- The lengths of the months of a year. -/
def monthLengths (year : Int) : List Nat :=
  [31, if isLeapYear year then 29 else 28, 31, 30, 31, 30, 31, 31, 30, 31, 30, 31]

/-- The number of the first day of a year. -/
def yearStart (year : Int) : Int :=
  365 * (year - 1) + (year - 1) / 4 - (year - 1) / 100 + (year - 1) / 400

/-- A date; months and days of a month count from one. -/
structure Date where
  year : Int
  month : Nat
  day : Nat
  deriving DecidableEq, Repr

/-- The month exists and has the day. -/
def Date.isValid (date : Date) : Bool :=
  match (monthLengths date.year)[date.month - 1]? with
  | some length => 1 ≤ date.month && 1 ≤ date.day && date.day ≤ length
  | none => false

/-- The number of days in the months before a date. -/
def Date.daysBefore (date : Date) : Nat :=
  ((monthLengths date.year).take (date.month - 1)).foldr (· + ·) 0

/-- The number of the day of a date. -/
def Date.toDays (date : Date) : Int :=
  yearStart date.year + date.daysBefore + date.day - 1

/-- The year that holds a day. The quotient is right or one year off. -/
def yearOf (days : Int) : Int :=
  let guess := 400 * days / 146097 + 1
  if days < yearStart guess then guess - 1
  else if yearStart (guess + 1) ≤ days then guess + 1
  else guess

/-- Walks through months of the given lengths: the month and day of the given
day of the year. -/
def monthAndDay : List Nat → Nat → Nat → Nat × Nat
  | [], month, day => (month, day + 1)
  | length :: lengths, month, day =>
    if day < length then (month, day + 1) else monthAndDay lengths (month + 1) (day - length)

/-- The date of a day. -/
def Date.ofDays (days : Int) : Date :=
  let year := yearOf days
  let (month, day) := monthAndDay (monthLengths year) 1 (days - yearStart year).toNat
  ⟨year, month, day⟩

end NamedConstants.Calendar
