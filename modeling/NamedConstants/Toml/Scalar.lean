import NamedConstants.BinaryFloat.Text
import NamedConstants.Calendar
import NamedConstants.Json.Basic
import NamedConstants.Text.Piece
import NamedConstants.Toml.Basic

/-!
# Unquoted TOML values

Truth values, integers in four bases, floats, dates and times. Underscores may
stand between digits, and a decimal number has no needless zero in front.
-/

set_option autoImplicit false

namespace NamedConstants.Toml

/-- The digits of a text with underscores between digits. -/
def digits? (isDigit : Char → Bool) (text : List Char) : Option (List Char) :=
  let groups := Text.pieces (· == '_') text
  if groups.all fun group => !group.isEmpty && group.all isDigit then some groups.flatten
  else none

/-- The digits of a decimal number: a zero in front stands alone. -/
def decimalDigits? (text : List Char) : Option (List Char) :=
  match digits? Char.isDigit text with
  | some ('0' :: _ :: _) => none
  | digits => digits

/-- A text without its sign, and whether the sign is a minus. -/
def unsigned : List Char → Bool × List Char
  | '-' :: rest => (true, rest)
  | '+' :: rest => (false, rest)
  | text => (false, text)

/-- The digit belongs to the base. -/
def isDigitOf (base : Nat) (c : Char) : Bool :=
  match base with
  | 16 => c.isDigit || ('a' ≤ c && c ≤ 'f') || ('A' ≤ c && c ≤ 'F')
  | base => c.isDigit && c.toNat < 48 + base

/-- The value of a digit in any base up to sixteen. -/
def digitValue (c : Char) : Nat :=
  if c.isDigit then c.toNat - 48 else (c.toNat ||| 32) - 87

/-- The number spelled in a base. -/
def numberOf (base : Nat) (digits : List Char) : Nat :=
  digits.foldl (fun value c => base * value + digitValue c) 0

/-- An integer in one of the four bases. Only decimal ones have a sign. -/
def integer? (text : List Char) : Option Int :=
  let inBase (base : Nat) (rest : List Char) : Option Int :=
    (digits? (isDigitOf base) rest).map fun digits => numberOf base digits
  match text with
  | '0' :: 'x' :: rest => inBase 16 rest
  | '0' :: 'o' :: rest => inBase 8 rest
  | '0' :: 'b' :: rest => inBase 2 rest
  | text =>
    let (negative, size) := unsigned text
    (decimalDigits? size).map fun digits =>
      if negative then -(numberOf 10 digits : Int) else numberOf 10 digits

/-- The integer can be held. -/
def isHeld (value : Int) : Bool :=
  -(twoTo 127 : Nat) ≤ value && value < (twoTo 128 : Nat)

/-- The text is an exponent: an optional sign and digits. -/
def exponent? (text : List Char) : Option (List Char) :=
  match text with
  | '-' :: rest => (digits? Char.isDigit rest).map ('-' :: ·)
  | '+' :: rest => digits? Char.isDigit rest
  | rest => digits? Char.isDigit rest

/-- A fraction with its point, and an exponent with its mark. -/
def fractionAndExponent? (text : List Char) : Option (List Char) := do
  let (mantissa, exponent) ←
    match text.span fun c => c != 'e' && c != 'E' with
    | (mantissa, []) => some (mantissa, [])
    | (mantissa, _ :: rest) => (exponent? rest).map fun digits => (mantissa, 'e' :: digits)
  match mantissa with
  | [] => if exponent.isEmpty then none else some exponent
  | '.' :: fraction => return '.' :: (← digits? Char.isDigit fraction) ++ exponent
  | _ => none

/-- The text is a float whose size can be held. -/
def isFloat (text : List Char) : Bool :=
  let (_, size) := unsigned text
  if size == "inf".toList || size == "nan".toList then true
  else
    let (whole, rest) := size.span fun c => c != '.' && c != 'e' && c != 'E'
    match decimalDigits? whole, fractionAndExponent? rest with
    | some whole, some rest =>
      match (BinaryFloat.ofText (whole ++ rest) : Except _ Double) with
      | .ok x => !x.isInfinite
      | .error _ => false
    | _, _ => false

/-- The number of two decimal digits. -/
def twoDigits? (tens units : Char) : Option Nat :=
  if tens.isDigit && units.isDigit then some (numberOf 10 [tens, units]) else none

/-- Reads a date that exists and returns what follows it. -/
def date? : List Char → Option (List Char)
  | y₁ :: y₂ :: y₃ :: y₄ :: '-' :: m₁ :: m₂ :: '-' :: d₁ :: d₂ :: rest => do
    let century ← twoDigits? y₁ y₂
    let year ← twoDigits? y₃ y₄
    let date : Calendar.Date := ⟨100 * century + year, ← twoDigits? m₁ m₂, ← twoDigits? d₁ d₂⟩
    if date.isValid then some rest else none
  | _ => none

/-- Drops a fraction of a second. -/
def afterFraction? : List Char → Option (List Char)
  | '.' :: rest =>
    if rest.takeWhile Char.isDigit |>.isEmpty then none else some (rest.dropWhile Char.isDigit)
  | rest => some rest

/-- Reads a time of day, with or without seconds, and returns what follows it. -/
def time? : List Char → Option (List Char)
  | h₁ :: h₂ :: ':' :: m₁ :: m₂ :: rest => do
    let hour ← twoDigits? h₁ h₂
    let minute ← twoDigits? m₁ m₂
    if 23 < hour || 59 < minute then none
    else
      match rest with
      | ':' :: s₁ :: s₂ :: rest => do
        let second ← twoDigits? s₁ s₂
        if 60 < second then none else afterFraction? rest
      | ':' :: _ => none
      | rest => some rest
  | _ => none

/-- The text is the offset of a time zone. -/
def isOffset : List Char → Bool
  | ['Z'] => true
  | ['z'] => true
  | [sign, h₁, h₂, ':', m₁, m₂] =>
    (sign == '+' || sign == '-') &&
      match twoDigits? h₁ h₂, twoDigits? m₁ m₂ with
      | some hour, some minute => hour ≤ 23 && minute ≤ 59
      | _, _ => false
  | _ => false

/-- The text is a date, a time or both; only both together have an offset. -/
def isDate (text : List Char) : Bool :=
  match date? text with
  | some [] => true
  | some (mark :: rest) =>
    (mark == 'T' || mark == 't' || mark == ' ') &&
      match time? rest with
      | some [] => true
      | some offset => isOffset offset
      | none => false
  | none => time? text == some []

/-- The value of an unquoted text. -/
def ofUnquoted? (text : List Char) : Option Toml :=
  if text == "true".toList then some (.boolean true)
  else if text == "false".toList then some (.boolean false)
  else
    match integer? text with
    | some value => if isHeld value then some .integer else none
    | none =>
      if isFloat text then some .float
      else if isDate text then some .date
      else none

end NamedConstants.Toml
