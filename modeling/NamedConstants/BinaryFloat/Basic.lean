import NamedConstants.Power

/-!
# Binary floating-point numbers

A number of a binary format is a sign and a *pattern*: the exponent field and
the fraction field read as one natural number. Patterns without a sign are
ordered like the numbers they stand for, the pattern of infinity is the first
one above all finite ones, and the patterns above it are not numbers.

The view of a finite number is `units`: its size counted in units of the
smallest positive number of the format. Every finite number is a whole number
of units, so rounding, comparing and printing are arithmetic on naturals.
-/

set_option autoImplicit false

namespace NamedConstants

/-- The two widths that determine a binary format. -/
structure BinaryFormat where
  fractionBits : Nat
  exponentBits : Nat
  deriving DecidableEq, Repr

namespace BinaryFormat

/-- The format of 32 bits. -/
def single : BinaryFormat := ⟨23, 8⟩

/-- The format of 64 bits. -/
def double : BinaryFormat := ⟨52, 11⟩

variable (format : BinaryFormat)

/-- The number of bits besides the sign. -/
def patternBits : Nat := format.exponentBits + format.fractionBits

/-- The pattern of infinity: all exponent bits set, the fraction empty. -/
def infinity : Nat := (twoTo format.exponentBits - 1) * twoTo format.fractionBits

/-- The pattern of the number one. -/
def one : Nat := (twoTo (format.exponentBits - 1) - 1) * twoTo format.fractionBits

/-- One is `2 ^ unitExponent` units. -/
def unitExponent : Nat := twoTo (format.exponentBits - 1) - 2 + format.fractionBits

/-- The size of a pattern in units. -/
def units (pattern : Nat) : Nat :=
  let exponent := pattern / twoTo format.fractionBits
  let fraction := pattern % twoTo format.fractionBits
  if exponent = 0 then fraction else (twoTo format.fractionBits + fraction) * twoTo (exponent - 1)

/-- The distance in units from a pattern to the next one. -/
def gap (pattern : Nat) : Nat :=
  twoTo (pattern / twoTo format.fractionBits - 1)

end BinaryFormat

/-- A number of a binary format. -/
structure BinaryFloat (format : BinaryFormat) where
  negative : Bool
  pattern : Nat
  pattern_lt : pattern < twoTo format.patternBits
  deriving DecidableEq, Repr

namespace BinaryFloat

variable {format : BinaryFormat}

/-- The number with the given sign and pattern; bits that do not fit are
dropped. -/
def ofPattern (negative : Bool) (pattern : Nat) : BinaryFloat format :=
  ⟨negative, pattern % twoTo format.patternBits, Nat.mod_lt _ (twoTo_pos _)⟩

/-- The number with the given bits, the sign first. -/
def ofBits (bits : Nat) : BinaryFloat format :=
  ofPattern (bits / twoTo format.patternBits % 2 == 1) bits

/-- The bits of the number, the sign first. -/
def toBits (x : BinaryFloat format) : Nat :=
  (if x.negative then twoTo format.patternBits else 0) + x.pattern

/-- Zero with a sign. -/
def zero (negative : Bool) : BinaryFloat format :=
  ofPattern negative 0

def isNaN (x : BinaryFloat format) : Bool :=
  format.infinity < x.pattern

def isInfinite (x : BinaryFloat format) : Bool :=
  x.pattern == format.infinity

def isFinite (x : BinaryFloat format) : Bool :=
  x.pattern < format.infinity

/-- Both zeros are zero. -/
def isZero (x : BinaryFloat format) : Bool :=
  x.pattern == 0

/-- The number with the other sign. -/
def neg (x : BinaryFloat format) : BinaryFloat format :=
  { x with negative := !x.negative }

/-- The number without its sign. -/
def abs (x : BinaryFloat format) : BinaryFloat format :=
  { x with negative := false }

/-- The signed size in units. -/
def toUnits (x : BinaryFloat format) : Int :=
  if x.negative then -(format.units x.pattern : Int) else format.units x.pattern

/-- Equality of numbers: the two zeros are equal, and what is not a number
equals nothing, itself included. -/
def equal (x y : BinaryFloat format) : Bool :=
  !x.isNaN && !y.isNaN && ((x.isZero && y.isZero) || x.toBits == y.toBits)

/-- The order of numbers. -/
def le (x y : BinaryFloat format) : Bool :=
  !x.isNaN && !y.isNaN && x.toUnits ≤ y.toUnits

@[simp] theorem pattern_ofPattern (negative : Bool) (pattern : Nat) :
    (ofPattern negative pattern : BinaryFloat format).pattern =
      pattern % twoTo format.patternBits := rfl

/-- A number is determined by its bits. -/
theorem ofBits_toBits (x : BinaryFloat format) : ofBits x.toBits = x := by
  obtain ⟨negative, pattern, below⟩ := x
  have positive := twoTo_pos format.patternBits
  cases negative <;>
    simp [-Nat.pow_eq, ofBits, toBits, ofPattern, Nat.mod_eq_of_lt below, Nat.div_eq_of_lt below,
      Nat.add_div_left, positive]

end BinaryFloat

end NamedConstants
