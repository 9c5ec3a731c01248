import NamedConstants.Json.Reader
import NamedConstants.Json.Writer
import NamedConstants.Scalar.Basic
import NamedConstants.Timestamp.Text

/-!
# Scalars as text

Every kind has a text form. Integers are written base ten, floats with the
fewest digits that read back at their own precision, bytes as the characters
they encode, timestamps in the form of RFC 3339, structured values as JSON.
Reading an integer stops at the first fault from left to right: a character that
is no digit, or the digit with which the number leaves the range.
-/

set_option autoImplicit false

namespace NamedConstants

namespace IntegerText

/-- Reads digits, adding to or subtracting from the number so far. -/
def digits (low high : Int) (negative : Bool) : Int → List Char → Except Reason Int
  | value, [] => .ok value
  | value, c :: rest =>
    if c.isDigit then
      let digit : Int := (c.toNat - 48 : Nat)
      let next := if negative then 10 * value - digit else 10 * value + digit
      if next < low then .error .tooSmall
      else if high < next then .error .tooLarge
      else digits low high negative next rest
    else .error .invalidDigit

/-- Reads an integer between two bounds. A minus is a sign only if the range
has negative numbers; a sign alone is no integer. -/
def read (low high : Int) (text : List Char) : Except Reason Int :=
  match text with
  | [] => .error .emptyInteger
  | ['+'] => .error .invalidDigit
  | ['-'] => .error .invalidDigit
  | '+' :: rest => digits low high false 0 rest
  | '-' :: rest =>
    if low < 0 then digits low high true 0 rest else .error .invalidDigit
  | text => digits low high false 0 text

/-- The text of an integer. -/
def write (value : Int) : List Char :=
  Json.integerText value

end IntegerText

namespace Scalar

/-- The text of a scalar as characters. -/
def writeText {kind : Kind} : Scalar kind → List Char
  | .integer x => IntegerText.write x.value
  | .float x => x.toText
  | .bool x => if x then "true".toList else "false".toList
  | .string x => x.toList
  | .bytes x => Text.decodeLossy x
  | .timestamp x => x.toText
  | .structured x => x.write

/-- The text of a scalar. -/
def toText {kind : Kind} (value : Scalar kind) : String :=
  String.ofList value.writeText

/-- The spellings of truth values. -/
def boolOfText? (text : String) : Option Bool :=
  if ["1", "t", "T", "TRUE", "true", "True"].contains text then some true
  else if ["0", "f", "F", "FALSE", "false", "False"].contains text then some false
  else none

/-- Reads an integer of a kind. -/
def integerOfText (kind : IntegerKind) (text : List Char) :
    Except Reason (Scalar (.integer kind)) :=
  match IntegerText.read kind.minimum kind.maximum text with
  | .error reason => .error reason
  | .ok value =>
    match ofInt? kind value with
    | some scalar => .ok scalar
    | none => .error .tooLarge

/-- The fault of a text that is no float. -/
def floatReason : BinaryFloat.TextFault → Reason
  | .empty => .emptyFloat
  | .invalid => .invalidFloat

/-- The text spells infinity and does not merely exceed the range. -/
def spellsInfinity (text : List Char) : Bool :=
  "inf".toList.isPrefixOf
    ((text.dropWhile fun c => c == '+' || c == '-').map Char.toLower)

/-- Reads a float; a number beyond the range is no float. -/
def floatOfText (kind : FloatKind) (text : List Char) : Except Reason (Scalar (.float kind)) :=
  match BinaryFloat.ofText text with
  | .error fault => .error (floatReason fault)
  | .ok x => if x.isInfinite && !spellsInfinity text then .error .outOfRange else .ok (.float x)

/-- The fault of a text that is no timestamp. -/
def timestampReason : Timestamp.TextFault → Reason
  | .short => .endOfInput
  | .invalid => .invalidCharacters
  | .outOfRange => .impossibleTime
  | .trailing => .trailingInput

/-- Reads a timestamp. -/
def timestampOfText (text : List Char) : Except Reason (Scalar .timestamp) :=
  match Timestamp.ofText text with
  | .ok t => .ok (.timestamp t)
  | .error fault => .error (timestampReason fault)

/-- A failure to read a text. -/
def orUnreadable {α : Type} (input : String) (kind : Kind) (result : Except Reason α) :
    Result α :=
  result.mapError (.unreadable input kind)

/-- Reads a truth value. -/
def boolOfText (text : String) : Except Reason (Scalar .bool) :=
  match boolOfText? text with
  | some value => .ok (.bool value)
  | none => .error .invalidBool

/-- Reads a structured value from JSON. -/
def structuredOfText (text : List Char) : Result (Scalar .structured) :=
  match Json.ofText? text with
  | some value => .ok (.structured value)
  | none => .error (.json "not a JSON document")

/-- Reads a scalar of a kind. -/
def ofText (text : String) : (kind : Kind) → Result (Scalar kind)
  | .integer kind => orUnreadable text (.integer kind) (integerOfText kind text.toList)
  | .float kind => orUnreadable text (.float kind) (floatOfText kind text.toList)
  | .bool => orUnreadable text .bool (boolOfText text)
  | .string => .ok (.string text)
  | .bytes => .ok (.bytes (Text.bytesOf text))
  | .timestamp => orUnreadable text .timestamp (timestampOfText text.toList)
  | .structured => structuredOfText text.toList

end Scalar

/-- The text of a value. -/
def RawValue.toText : RawValue → String
  | null => "null"
  | scalar value => value.toText

end NamedConstants
