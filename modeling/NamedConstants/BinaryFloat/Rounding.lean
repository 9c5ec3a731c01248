import NamedConstants.BinaryFloat.Basic

/-!
# Rounding to a binary format

A positive rational number of units is rounded to the nearest pattern, ties to
the even one (`BinaryFormat.round`). The quotient is cut to one bit more than
the fraction holds; the number of bits cut off is at once the exponent field,
and a carry out of the fraction moves the pattern into the next exponent by
itself. Everything else follows from this one function: conversion of integers
and of other formats, products and quotients.
-/

set_option autoImplicit false

namespace NamedConstants

/-- The whole number nearest to a quotient, ties to the even one. -/
def divNearestEven (numerator denominator : Nat) : Nat :=
  let quotient := numerator / denominator
  let remainder := numerator % denominator
  if 2 * remainder < denominator then quotient
  else if 2 * remainder = denominator ∧ quotient % 2 = 0 then quotient
  else quotient + 1

/-- The pattern nearest to `numerator / denominator` units; what lies beyond the
largest finite number becomes infinity. -/
def BinaryFormat.round (format : BinaryFormat) (numerator denominator : Nat) : Nat :=
  let shift := (numerator / denominator).log2 - format.fractionBits
  min (shift * twoTo format.fractionBits + divNearestEven numerator (denominator * twoTo shift))
    format.infinity

namespace BinaryFloat

variable {format target : BinaryFormat}

/-- The number nearest to a signed quotient, counted in units. -/
def ofRatio (negative : Bool) (numerator denominator : Nat) : BinaryFloat format :=
  ofPattern negative (format.round numerator denominator)

/-- Infinity with a sign. -/
def infinity (negative : Bool) : BinaryFloat format :=
  ofPattern negative format.infinity

/-- A quiet value that is not a number. -/
def notANumber (negative : Bool) : BinaryFloat format :=
  ofPattern negative (format.infinity + twoTo (format.fractionBits - 1))

/-- The largest finite number. -/
def largest : BinaryFloat format :=
  ofPattern false (format.infinity - 1)

/-- The number nearest to an integer. -/
def ofInt (value : Int) : BinaryFloat format :=
  ofRatio (value < 0) (value.natAbs * twoTo format.unitExponent) 1

/-- The nearest number of another format. Infinity and what is not a number
keep their sign. -/
def cast (x : BinaryFloat format) : BinaryFloat target :=
  if x.isNaN then notANumber x.negative
  else if x.isInfinite then infinity x.negative
  else
    ofRatio x.negative (format.units x.pattern * twoTo target.unitExponent) (twoTo format.unitExponent)

/-- The whole part of a finite number: the fraction is cut off. -/
def truncate (x : BinaryFloat format) : Int :=
  let size : Int := (format.units x.pattern / twoTo format.unitExponent : Nat)
  if x.negative then -size else size

/-- The number is not a finite whole number. -/
def hasFraction (x : BinaryFloat format) : Bool :=
  !x.isFinite || format.units x.pattern % twoTo format.unitExponent != 0

/-- The product of two finite numbers. -/
def mul (x y : BinaryFloat format) : BinaryFloat format :=
  ofRatio (x.negative != y.negative) (format.units x.pattern * format.units y.pattern)
    (twoTo format.unitExponent)

/-- The quotient of two finite numbers, the second one not zero. -/
def div (x y : BinaryFloat format) : BinaryFloat format :=
  ofRatio (x.negative != y.negative) (format.units x.pattern * twoTo format.unitExponent)
    (format.units y.pattern)

end BinaryFloat

end NamedConstants
