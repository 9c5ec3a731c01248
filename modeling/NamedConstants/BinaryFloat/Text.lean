import NamedConstants.BinaryFloat.Decimal

/-!
# Floats as text

A float is written with the fewest digits that read back at its own precision,
always positionally: no exponent, and no point behind a whole number. It is
read from an optional sign and either the name of a special value or digits
with an optional point and an optional exponent.
-/

set_option autoImplicit false

namespace NamedConstants

/-- The positional form of a decimal: zeros are put where the exponent asks for
them, and the point only where a digit stands behind it. -/
def Decimal.positional (decimal : Decimal) : List Char :=
  let digits := decimalDigits decimal.digits
  if 0 ≤ decimal.exponent then digits ++ List.replicate decimal.exponent.toNat '0'
  else
    let places := (-decimal.exponent).toNat
    if places < digits.length then
      digits.take (digits.length - places) ++ '.' :: digits.drop (digits.length - places)
    else '0' :: '.' :: List.replicate (places - digits.length) '0' ++ digits

namespace BinaryFloat

variable {format : BinaryFormat}

/-- The text of a float. -/
def toText (x : BinaryFloat format) : List Char :=
  if x.isNaN then "NaN".toList
  else
    let size :=
      if x.isInfinite then "inf".toList
      else if x.isZero then ['0']
      else (format.shortest .up x.pattern).positional
    if x.negative then '-' :: size else size

/-- Why a text is no float. -/
inductive TextFault
  | empty
  | invalid
  deriving DecidableEq, Repr

/-- Splits the digits off the front of a text. -/
def spanDigits (text : List Char) : List Char × List Char :=
  (text.takeWhile Char.isDigit, text.dropWhile Char.isDigit)

/-- The number spelled by digits. -/
def digitsValue (digits : List Char) : Nat :=
  digits.foldl (fun value c => 10 * value + (c.toNat - 48)) 0

/-- Reads an exponent: a sign and at least one digit. -/
def exponent? : List Char → Option Int
  | '-' :: rest => (unsigned? rest).map fun n => -n
  | '+' :: rest => unsigned? rest
  | rest => unsigned? rest
where
  unsigned? (digits : List Char) : Option Int :=
    if digits.isEmpty || !digits.all Char.isDigit then none else some (digitsValue digits)

/-- Reads digits with an optional point and an optional exponent. -/
def decimal? (text : List Char) : Option Decimal :=
  let (whole, rest) := spanDigits text
  let (fraction, rest) :=
    match rest with
    | '.' :: rest => spanDigits rest
    | rest => ([], rest)
  if whole.isEmpty && fraction.isEmpty then none
  else
    let digits := digitsValue (whole ++ fraction)
    match rest with
    | [] => some ⟨digits, -fraction.length⟩
    | c :: rest =>
      if c == 'e' || c == 'E' then
        (exponent? rest).map fun exponent => ⟨digits, exponent - fraction.length⟩
      else none

/-- Reads a float without its sign. -/
def unsigned? (negative : Bool) (text : List Char) : Option (BinaryFloat format) :=
  match decimal? text with
  | some decimal => some (ofPattern negative (format.ofDecimal decimal))
  | none =>
    let lower := text.map Char.toLower
    if lower == "inf".toList || lower == "infinity".toList then some (infinity negative)
    else if lower == "nan".toList then some (notANumber negative)
    else none

/-- Reads a float. -/
def ofText (text : List Char) : Except TextFault (BinaryFloat format) :=
  let result :=
    match text with
    | '-' :: rest => unsigned? true rest
    | '+' :: rest => unsigned? false rest
    | rest => unsigned? false rest
  match result with
  | some x => .ok x
  | none => .error (if text.isEmpty then .empty else .invalid)

end BinaryFloat

end NamedConstants
