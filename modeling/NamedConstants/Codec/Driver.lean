import NamedConstants.Family.Basic
import NamedConstants.Scalar.Conversion

/-!
# The database codec

A database driver takes integers of 64 bits, floats, truth values, bytes and
strings. An instance is handed over as one of these; a value that comes back is
scanned into an instance, and null leaves the instance as it is.
-/

set_option autoImplicit false

namespace NamedConstants

/-- A value that a database driver takes. -/
inductive DriverValue
  | integer (value : BoundedInt .int64)
  | float (value : Double)
  | bool (value : Bool)
  | bytes (value : Text.Bytes)
  | string (value : String)

namespace DriverValue

/-- The value as a value of known kind. -/
def toValue : DriverValue → RawValue
  | integer value => .scalar (.integer value)
  | float value => .scalar (@Scalar.float .double value)
  | bool value => .scalar (.bool value)
  | bytes value => .scalar (.bytes value)
  | string value => .scalar (.string value)

/-- The name of the variant. -/
def variant : DriverValue → String
  | integer _ => "Int64"
  | float _ => "Float64"
  | bool _ => "Bool"
  | bytes _ => "Bytes"
  | string _ => "String"

/-- The text of the value. -/
def toText (value : DriverValue) : String :=
  value.toValue.toText

/-- The JSON form: an object whose only key is the variant. -/
def toJson (value : DriverValue) : Json :=
  let content : Json :=
    match value with
    | integer value => .integer value.value
    | float value => .ofDouble value
    | bool value => .bool value
    | bytes value => .array (value.map fun byte => .integer byte.toNat)
    | string value => .string value
  .object [(value.variant, content)]

/-- The value of a variant with the given content. -/
def ofContent? (variant : String) (content : Json) : Option DriverValue :=
  match variant, content with
  | "Int64", .integer value =>
    match Scalar.ofInt? .int64 value with
    | some (.integer value) => some (integer value)
    | none => none
  | "Float64", .integer value => some (float (.ofInt value))
  | "Float64", .float value => some (float value)
  | "Bool", .bool value => some (bool value)
  | "Bytes", .array elements => (Json.bytes? elements).map bytes
  | "String", .string value => some (string value)
  | _, _ => none

/-- Reads the JSON form. -/
def ofText? (text : List Char) : Option DriverValue :=
  match Json.tokens? text with
  | some (.openObject :: .string variant :: .colon :: rest) =>
    match rest.getLast? with
    | some .closeObject => (Json.ofTokens? rest.dropLast).bind (ofContent? variant)
    | _ => none
  | _ => none

end DriverValue

namespace Codec.Driver

variable {kind : Kind}

/-- The integer as a driver value, if it has 64 bits with a sign. -/
def ofInteger (value : Int) : Result DriverValue := do
  match ← Scalar.ofInt .int64 value with
  | .integer value => return .integer value

/-- The driver value of a raw scalar. -/
def ofScalar : Scalar kind → Result DriverValue
  | .integer x => ofInteger x.value
  | .float x => .ok (.float x.cast)
  | .bool x => .ok (.bool x)
  | .string x => .ok (.string x)
  | .bytes x => .ok (.bytes x)
  | .timestamp x => .ok (.string (Scalar.timestamp x).toText)
  | .structured x => .ok (.string (Scalar.structured x).toText)

/-- The driver value of an instance. -/
def encode (family : Family kind) (raw : Scalar kind) : Result DriverValue :=
  match family.representation with
  | .byName => .ok (.string (family.nameOf raw))
  | .byValue => ofScalar raw

/-- The candidate that a value points to. A raw scalar is scanned over the one
of the instance, a name over the empty text. -/
def readCandidate (family : Family kind) (target : Scalar kind) (source : RawValue) :
    Result (Candidate kind) :=
  match family.representation with
  | .byName => do
    match ← NamedConstants.scan (.string "") source with
    | .string name => return .name name
  | .byValue => Candidate.value <$> NamedConstants.scan target source

/-- Scans a value into an instance: the instance afterwards, or the failure that
leaves it as it is. -/
def scan (family : Family kind) (target : Scalar kind) (source : RawValue) :
    Result (Scalar kind) :=
  if source.isNull then .ok target
  else do family.resolve (← readCandidate family target source) source.toText

/-- Scans a value into an instance that is kept: what the call answers, and the
instance afterwards. -/
def scanInto (family : Family kind) (target : Scalar kind) (source : RawValue) :
    Result Unit × Scalar kind :=
  match scan family target source with
  | .ok next => (.ok (), next)
  | .error failure => (.error failure, target)

/-- Scans values into an instance one after the other: what the calls answer,
and the instance afterwards. -/
def scanEach (family : Family kind) (target : Scalar kind) :
    List RawValue → List (Result Unit) × Scalar kind
  | [] => ([], target)
  | source :: sources =>
    let (answer, next) := scanInto family target source
    let (answers, last) := scanEach family next sources
    (answer :: answers, last)

end Codec.Driver

end NamedConstants
