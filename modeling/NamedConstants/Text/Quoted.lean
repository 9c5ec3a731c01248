import NamedConstants.Text.Printable
import NamedConstants.Text.Utf8

/-!
# Quoted text

The two literal forms the library writes. A string literal stands between
double quotes; a quote, a backslash and the common control characters have a
short escape, every other character without a shape of its own is written by
its number. A byte-string literal holds printable ASCII only, and every other
byte is written by its number.
-/

set_option autoImplicit false

namespace NamedConstants.Text

/-- The hexadecimal digits of a number, lower case, without leading zeros. -/
def hexDigits (n : Nat) : List Char :=
  Nat.toDigits 16 n

/-- Two hexadecimal digits for a byte. -/
def hexByte (byte : UInt8) : List Char :=
  [Nat.digitChar (byte.toNat / 16), Nat.digitChar (byte.toNat % 16)]

/-- The written form of one character inside a string literal. -/
def quotedChar (c : Char) : List Char :=
  if c == '\x00' then ['\\', '0']
  else if c == '\t' then ['\\', 't']
  else if c == '\r' then ['\\', 'r']
  else if c == '\n' then ['\\', 'n']
  else if c == '\\' then ['\\', '\\']
  else if c == '"' then ['\\', '"']
  else if isGraphemeExtend c || !isPrintable c then
    ['\\', 'u', '\x7b'] ++ hexDigits c.toNat ++ ['\x7d']
  else [c]

/-- The string literal of a text. -/
def quoted (text : List Char) : List Char :=
  '"' :: text.flatMap quotedChar ++ ['"']

/-- The string literal of a string. -/
def quotedString (text : String) : String :=
  String.ofList (quoted text.toList)

/-- The written form of one byte inside a byte-string literal. -/
def quotedByte (byte : UInt8) : List Char :=
  if byte == 9 then ['\\', 't']
  else if byte == 10 then ['\\', 'n']
  else if byte == 13 then ['\\', 'r']
  else if byte == 34 then ['\\', '"']
  else if byte == 39 then ['\\', '\'']
  else if byte == 92 then ['\\', '\\']
  else if 0x20 ≤ byte.toNat && byte.toNat < 0x7F then [Char.ofNat byte.toNat]
  else ['\\', 'x'] ++ hexByte byte

/-- The byte-string literal of a byte sequence. -/
def quotedBytes (bytes : Bytes) : List Char :=
  'b' :: '"' :: bytes.flatMap quotedByte ++ ['"']

/-- A list of byte values as it is shown in messages. -/
def shownBytes (bytes : Bytes) : String :=
  "[" ++ ", ".intercalate (bytes.map fun byte => toString byte.toNat) ++ "]"

end NamedConstants.Text
