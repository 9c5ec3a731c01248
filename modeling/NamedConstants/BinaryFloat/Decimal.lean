import NamedConstants.BinaryFloat.Rounding

/-!
# Binary numbers as decimals

A decimal is a natural number and a power of ten. Reading one rounds its exact
value to the format. Writing takes the coarsest decimal grid that has a point
which reads back as the number, and on that grid the point nearest to it: so no
decimal with fewer digits reads back, and none with as many is closer. The two
neighbours of the number on a grid decide whether the grid has such a point.
Where both neighbours are equally near, the caller says which one is taken.
-/

set_option autoImplicit false

namespace NamedConstants

/-- The decimal `digits · 10 ^ exponent`. -/
structure Decimal where
  digits : Nat
  exponent : Int
  deriving DecidableEq, Repr

/-- The digits of a natural number, base ten. -/
def decimalDigits (n : Nat) : List Char :=
  Nat.toDigits 10 n

/-- Which of two equally near decimals is written. -/
inductive TieRule
  | up
  | even
  deriving DecidableEq, Repr

namespace BinaryFormat

variable (format : BinaryFormat)

/-- The pattern nearest to a decimal. A decimal far outside the range of the
format is answered without computing the power. -/
def ofDecimal (decimal : Decimal) : Nat :=
  if decimal.digits = 0 then 0
  else
    let magnitude : Int := (decimalDigits decimal.digits).length + decimal.exponent
    if magnitude > (twoTo format.exponentBits : Nat) then format.infinity
    else if magnitude < -(format.unitExponent + 1 : Nat) then 0
    else
      let scaled := decimal.digits * twoTo format.unitExponent
      if 0 ≤ decimal.exponent then format.round (scaled * tenTo decimal.exponent.toNat) 1
      else format.round scaled (tenTo (-decimal.exponent).toNat)

/-- The decimals that read back as a pattern: bounds in quarter units. -/
structure ReadBack where
  low : Nat
  value : Nat
  high : Nat
  inclusive : Bool

/-- The interval of decimals around a positive finite pattern. The step below a
power of two is half as wide as the one above it; the ends belong to the
interval if the pattern is even. -/
def readBack (pattern : Nat) : ReadBack :=
  let value := 4 * format.units pattern
  let gap := format.gap pattern
  let isPower := pattern % twoTo format.fractionBits = 0 ∧ twoTo (format.fractionBits + 1) ≤ pattern
  { low := value - (if isPower then gap else 2 * gap)
    value
    high := value + 2 * gap
    inclusive := pattern % 2 == 0 }

/-- The point nearest to the number on the grid of a power of ten, if a
neighbour on that grid reads back. -/
def onGrid (tie : TieRule) (interval : ReadBack) (exponent : Int) : Option Nat :=
  let quarters := twoTo (format.unitExponent + 2)
  let step := if 0 ≤ exponent then tenTo exponent.toNat * quarters else quarters
  let scale := if 0 ≤ exponent then 1 else tenTo (-exponent).toNat
  let value := interval.value * scale
  let below := value / step
  let lowFits :=
    if interval.inclusive then interval.low * scale ≤ below * step
    else interval.low * scale < below * step
  let highFits :=
    if interval.inclusive then (below + 1) * step ≤ interval.high * scale
    else (below + 1) * step < interval.high * scale
  let remainder := value % step
  if lowFits ∧ highFits then
    if 2 * remainder < step then some below
    else if 2 * remainder = step ∧ tie = .even ∧ below % 2 = 0 then some below
    else some (below + 1)
  else if lowFits then some below
  else if highFits then some (below + 1)
  else none

/-- Searches the grids from `exponent` downwards; `fuel` counts the grids left.
-/
def shortestFrom (tie : TieRule) (interval : ReadBack) : Nat → Int → Decimal
  | 0, exponent => ⟨0, exponent⟩
  | fuel + 1, exponent =>
    match format.onGrid tie interval exponent with
    | some digits => if digits = 0 then shortestFrom tie interval fuel (exponent - 1)
                     else ⟨digits, exponent⟩
    | none => shortestFrom tie interval fuel (exponent - 1)

/-- The exponent of a power of ten that is not below the positive finite number
of the pattern: no grid above it has a point near the number. -/
def gridAbove (pattern : Nat) : Nat :=
  (format.units pattern).log2 + 1 - format.unitExponent

/-- The shortest decimal that reads back as a positive finite pattern. -/
def shortest (tie : TieRule) (pattern : Nat) : Decimal :=
  format.shortestFrom tie (format.readBack pattern) (twoTo format.exponentBits + format.unitExponent)
    (format.gridAbove pattern)

end BinaryFormat

end NamedConstants
