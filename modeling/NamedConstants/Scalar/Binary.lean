import NamedConstants.Scalar.Text

/-!
# Scalars as bytes

Numbers and truth values have a fixed number of bytes, the most significant one
first. Strings and byte sequences are their own bytes without a length in front;
timestamps and structured values are written as JSON. Reading a fixed form looks
at the leading bytes only, and no bytes at all are never a scalar.
-/

set_option autoImplicit false

namespace NamedConstants

/-- The number of a byte sequence, most significant byte first. -/
def naturalOfBytes (bytes : Text.Bytes) : Nat :=
  bytes.foldl (fun value byte => 256 * value + byte.toNat) 0

/-- The last `width` bytes of a number, most significant byte first. -/
def bytesOfNatural : Nat → Nat → Text.Bytes
  | 0, _ => []
  | width + 1, value => bytesOfNatural width (value / 256) ++ [(value % 256).toUInt8]

namespace IntegerKind

/-- The pattern of an integer: negative numbers are counted down from the number
of patterns. -/
def toPattern (kind : IntegerKind) (value : Int) : Nat :=
  (value % (twoTo kind.bitWidth : Nat)).toNat

/-- The integer of a pattern. -/
def ofPattern (kind : IntegerKind) (pattern : Nat) : Int :=
  if kind.isSigned && twoTo (kind.bitWidth - 1) ≤ pattern then
    (pattern : Int) - (twoTo kind.bitWidth : Nat)
  else pattern

end IntegerKind

namespace Scalar

/-- The binary form of a scalar. -/
def toBytes {kind : Kind} : Scalar kind → Text.Bytes
  | @integer kind x => bytesOfNatural kind.byteWidth (kind.toPattern x.value)
  | @float kind x => bytesOfNatural kind.byteWidth x.toBits
  | .bool x => [if x then 1 else 0]
  | .string x => Text.bytesOf x
  | .bytes x => x
  | .timestamp x => Text.encode (Json.writeString (String.ofList x.toText))
  | .structured x => Text.encode x.write

/-- Reads a structured value from the bytes of JSON. -/
def jsonOfBytes (data : Text.Bytes) : Result Json :=
  match Text.decode data with
  | .error _ => .error (.json "not UTF-8")
  | .ok text =>
    match Json.ofText? text with
    | some value => .ok value
    | none => .error (.json "not a JSON document")

/-- The timestamp that a JSON string spells. -/
def timestampOfJson : Json → Result (Scalar .timestamp)
  | .string text =>
    match Timestamp.ofTextTolerant text.toList with
    | .ok t => .ok (.timestamp t)
    | .error _ => .error (.json "not a timestamp")
  | _ => .error (.json "not a string")

/-- The leading bytes of a fixed form. -/
def leading (kind : Kind) (width : Nat) (data : Text.Bytes) : Result Nat :=
  if data.length < width then .error (.insufficientData kind width data.length)
  else .ok (naturalOfBytes (data.take width))

/-- Reads a scalar of a kind from its binary form. -/
def ofBytes (data : Text.Bytes) (kind : Kind) : Result (Scalar kind) :=
  if data.isEmpty then .error (.emptyData kind)
  else
    match kind with
    | .integer kind => do
      let pattern ← leading (.integer kind) kind.byteWidth data
      ofInt kind (kind.ofPattern pattern)
    | .float kind => do
      let bits ← leading (.float kind) kind.byteWidth data
      return .float (.ofBits bits)
    | .bool => do
      let byte ← leading .bool 1 data
      return .bool (byte != 0)
    | .string =>
      match Text.stringOf data with
      | .ok text => .ok (.string text)
      | .error fault => .error (.unreadable (Text.lossyString data) .string (.notUtf8 fault))
    | .bytes => .ok (.bytes data)
    | .timestamp => do timestampOfJson (← jsonOfBytes data)
    | .structured => do return .structured (← jsonOfBytes data)

end Scalar

/-- The binary form of a value; null has none. -/
def RawValue.toBytes : RawValue → Result Text.Bytes
  | null => .error .nilValue
  | scalar value => .ok value.toBytes

end NamedConstants
