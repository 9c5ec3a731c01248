import NamedConstants.Json.Basic
import NamedConstants.BinaryFloat.Text

/-!
# JSON numbers as text

Integers that fit 64 bits stay integers. Every other number is a float, and it
is read in a fixed way: the digits go into a natural number below `2 ^ 64` until
the next one no longer fits, the number becomes a float, and one multiplication
or division by a power of ten follows, so the result may differ from the nearest
float in the last bit. A power beyond `10 ^ 308` is applied in steps.

A float is written with the fewest digits that read back correctly, positionally
for a decimal point from five places in front to sixteen places behind the first
digit and with an exponent otherwise.
-/

set_option autoImplicit false

namespace NamedConstants.Json

/-! ## Reading -/

/-- The float nearest to a power of ten. -/
def powerOfTen (exponent : Nat) : Double :=
  .ofPattern false (BinaryFormat.double.ofDecimal ⟨1, exponent⟩)

/-- Divides by a power of ten, in steps of `10 ^ 308`. -/
def divideByPower (x : Double) (exponent : Nat) : Double :=
  if exponent ≤ 308 then x.div (powerOfTen exponent)
  else if x.isZero then x
  else divideByPower (x.div (powerOfTen 308)) (exponent - 308)
  termination_by exponent
  decreasing_by omega

/-- The size of the number `significand · 10 ^ exponent`; none if it is too
large. -/
def scale (significand : Nat) (exponent : Int) : Option Double :=
  let x : Double := .ofInt significand
  if exponent < 0 then some (divideByPower x (-exponent).toNat)
  else if exponent ≤ 308 then
    let product := x.mul (powerOfTen exponent.toNat)
    if product.isInfinite then none else some product
  else if x.isZero then some x
  else none

/-- A number with a sign. -/
def signed (negative : Bool) (x : Double) : Json :=
  .float (if negative then x.neg else x)

/-- The largest number that digits are collected into. -/
def largestSignificand : Nat := twoTo 64 - 1

/-- Adds digits to a significand as long as the next one fits. Returns the
significand and the digits left over. -/
def collect (significand : Nat) : List Char → Nat × List Char
  | [] => (significand, [])
  | c :: rest =>
    let next := 10 * significand + (c.toNat - 48)
    if next ≤ largestSignificand then collect next rest else (significand, c :: rest)

/-- Reads the exponent of a number and forms the number. The exponent must have
a digit; one beyond 31 bits is an error unless the number is zero or small. -/
def withExponent (negative : Bool) (significand : Nat) (start : Int) (text : List Char) :
    Option (Json × List Char) :=
  let (down, text) :=
    match text with
    | '+' :: rest => (false, rest)
    | '-' :: rest => (true, rest)
    | rest => (false, rest)
  let (digits, rest) := BinaryFloat.spanDigits text
  let exponent := BinaryFloat.digitsValue digits
  if digits.isEmpty then none
  else if exponent < twoTo 31 then
    (scale significand (if down then start - exponent else start + exponent)).map fun x =>
      (signed negative x, rest)
  else if significand != 0 && !down then none
  else some (signed negative (.zero false), rest)

/-- Reads what may follow the digits of a float: an exponent or nothing. -/
def afterDigits (negative : Bool) (significand : Nat) (start : Int) :
    List Char → Option (Json × List Char)
  | c :: rest =>
    if c == 'e' || c == 'E' then withExponent negative significand start rest
    else (scale significand start).map fun x => (signed negative x, c :: rest)
  | [] => (scale significand start).map fun x => (signed negative x, [])

/-- Reads the digits behind the point, of which there is at least one. -/
def withFraction (negative : Bool) (significand : Nat) (start : Int) (text : List Char) :
    Option (Json × List Char) :=
  let (digits, rest) := BinaryFloat.spanDigits text
  if digits.isEmpty then none
  else
    let (significand, dropped) := collect significand digits
    afterDigits negative significand (start - (digits.length - dropped.length : Nat)) rest

/-- Forms an integer; minus zero and numbers below the range are floats. -/
def wholeNumber (negative : Bool) (significand : Nat) : Json :=
  if !negative then .integer significand
  else if 0 < significand && significand ≤ twoTo 63 then .integer (-significand)
  else signed true (.ofInt significand)

/-- Reads a number without its sign: no zero may stand in front of another
digit. -/
def unsignedNumber (negative : Bool) (text : List Char) : Option (Json × List Char) :=
  let (digits, rest) := BinaryFloat.spanDigits text
  if digits.isEmpty || (digits.head? == some '0' && digits.length != 1) then none
  else
    let (significand, dropped) := collect 0 digits
    match rest with
    | '.' :: rest => withFraction negative significand dropped.length rest
    | rest =>
      if dropped.isEmpty && rest.head? != some 'e' && rest.head? != some 'E' then
        some (wholeNumber negative significand, rest)
      else afterDigits negative significand dropped.length rest

/-- Reads a number from the front of a text. -/
def number? : List Char → Option (Json × List Char)
  | '-' :: rest => unsignedNumber true rest
  | text => unsignedNumber false text

/-! ## Writing -/

/-- A number with a sign in front of its digits. -/
def integerText (value : Int) : List Char :=
  if value < 0 then '-' :: decimalDigits value.natAbs else decimalDigits value.natAbs

/-- A decimal with a point among or around its digits, or with an exponent. -/
def decimalText (decimal : Decimal) : List Char :=
  let digits := decimalDigits decimal.digits
  let point : Int := digits.length + decimal.exponent
  if 0 ≤ decimal.exponent ∧ point ≤ 16 then
    digits ++ List.replicate decimal.exponent.toNat '0' ++ ['.', '0']
  else if 0 < point ∧ point ≤ 16 then
    digits.take point.toNat ++ '.' :: digits.drop point.toNat
  else if -5 < point ∧ point ≤ 0 then
    '0' :: '.' :: List.replicate (-point).toNat '0' ++ digits
  else
    let exponent := point - 1
    let mark := 'e' :: (if exponent < 0 then '-' else '+') :: decimalDigits exponent.natAbs
    match digits with
    | [] => mark
    | [digit] => digit :: mark
    | digit :: more => digit :: '.' :: more ++ mark

/-- The text of a finite float of any precision. -/
def floatText {format : BinaryFormat} (x : BinaryFloat format) : List Char :=
  let size := if x.isZero then "0.0".toList else decimalText (format.shortest .even x.pattern)
  if x.negative then '-' :: size else size

end NamedConstants.Json
