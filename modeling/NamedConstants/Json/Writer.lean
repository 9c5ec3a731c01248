import NamedConstants.Json.Number
import NamedConstants.Text.Quoted

/-!
# Writing JSON

The compact form: no blanks, the members of an object in the order of their
keys. In a string only the quote, the backslash and the control characters are
escaped.
-/

set_option autoImplicit false

namespace NamedConstants.Json

/-- The written form of one character of a string. -/
def writtenChar (c : Char) : List Char :=
  if c == '"' then ['\\', '"']
  else if c == '\\' then ['\\', '\\']
  else if c == '\x08' then ['\\', 'b']
  else if c == '\x0c' then ['\\', 'f']
  else if c == '\n' then ['\\', 'n']
  else if c == '\r' then ['\\', 'r']
  else if c == '\t' then ['\\', 't']
  else if c.toNat < 0x20 then ['\\', 'u', '0', '0'] ++ Text.hexByte c.toNat.toUInt8
  else [c]

/-- The written form of a string. -/
def writeString (text : String) : List Char :=
  '"' :: text.toList.flatMap writtenChar ++ ['"']

mutual

/-- The compact text of a value. -/
def write : Json → List Char
  | .null => "null".toList
  | .bool value => if value then "true".toList else "false".toList
  | .integer value => integerText value
  | .float value => floatText value
  | .string value => writeString value
  | .array elements => '[' :: writeElements elements ++ [']']
  | .object members => '\x7b' :: writeMembers members ++ ['\x7d']

/-- The elements of an array with commas between them. -/
def writeElements : List Json → List Char
  | [] => []
  | [value] => write value
  | value :: rest => write value ++ ',' :: writeElements rest

/-- The members of an object with commas between them. -/
def writeMembers : List (String × Json) → List Char
  | [] => []
  | [(key, value)] => writeString key ++ ':' :: write value
  | (key, value) :: rest => writeString key ++ ':' :: write value ++ ',' :: writeMembers rest

end

/-- The compact text of a value as a string. -/
def toText (value : Json) : String :=
  String.ofList value.write

end NamedConstants.Json
