import NamedConstants.Family.Basic

/-!
# The JSON codec

By name, an instance is a JSON string. By value, numbers and truth values are
bare text, bytes are the string of their text, and everything else is JSON.
-/

set_option autoImplicit false

namespace NamedConstants

/-- Reads a scalar of a kind from a JSON value, without any conversion between
kinds. -/
def Scalar.ofJson? : (kind : Kind) → Json → Option (Scalar kind)
  | .integer kind, .integer value => ofInt? kind value
  | .float _, .integer value => some (.float (.ofInt value))
  | .float _, .float x => some (.float x.cast)
  | .bool, .bool value => some (.bool value)
  | .string, .string text => some (.string text)
  | .bytes, .string text => some (.bytes (Text.bytesOf text))
  | .timestamp, value => (timestampOfJson value).toOption
  | .structured, value => some (.structured value)
  | _, _ => none

namespace Codec.Json

variable {kind : Kind}

/-- The JSON text of a raw scalar. -/
def writeRaw : Scalar kind → List Char
  | .integer x => (Scalar.integer x).writeText
  | .float x => (Scalar.float x).writeText
  | .bool x => (Scalar.bool x).writeText
  | .string x => Json.writeString x
  | .bytes x => Json.writeString (Scalar.bytes x).toText
  | .timestamp x => Json.writeString (Scalar.timestamp x).toText
  | .structured x => x.write

/-- The JSON bytes of an instance. -/
def encode (family : Family kind) (raw : Scalar kind) : Text.Bytes :=
  Text.encode <|
    match family.representation with
    | .byName => Json.writeString (family.nameOf raw)
    | .byValue => writeRaw raw

/-- Reads a name. -/
def readName (data : Text.Bytes) : Result (Candidate kind) :=
  Result.describe "failed to decode JSON name" <| do
    match ← Scalar.jsonOfBytes data with
    | .string name => return .name name
    | _ => throw (.json "not a string")

/-- Reads a raw scalar. -/
def readValue (data : Text.Bytes) : Result (Candidate kind) :=
  Result.describe "failed to decode JSON value" <| do
    match Scalar.ofJson? kind (← Scalar.jsonOfBytes data) with
    | some raw => return .value raw
    | none => throw (.json "not a value of the kind")

/-- Reads an instance from JSON bytes. -/
def decode (family : Family kind) (data : Text.Bytes) : Result (Scalar kind) := do
  let candidate ←
    match family.representation with
    | .byName => readName data
    | .byValue => readValue data
  family.resolve candidate (Text.lossyString data)

end Codec.Json

end NamedConstants
