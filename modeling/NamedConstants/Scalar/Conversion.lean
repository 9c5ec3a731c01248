import NamedConstants.Scalar.Coercion

/-!
# Conversion of opaque values

What a node holds when it does not decode into the wanted kind directly is
converted by a stricter table: integers convert among each other and into
floats, floats among each other, any scalar into a string by its text, and a
list of small numbers into bytes. Null is never converted.
-/

set_option autoImplicit false

namespace NamedConstants

/-- The byte that a JSON value is, if it is one. -/
def Json.byte? : Json → Option UInt8
  | .integer value => if 0 ≤ value ∧ value ≤ 255 then some value.toNat.toUInt8 else none
  | _ => none

/-- The bytes of a list of JSON values. -/
def Json.bytes? (elements : List Json) : Option Text.Bytes :=
  elements.mapM Json.byte?

/-- Converts a value that is not null. -/
def convertPresent (source : RawValue) : (kind : Kind) → Result (Scalar kind)
  | .integer kind =>
    match source.toInt? with
    | some value => Scalar.ofInt kind value
    | none => source.unsupported (.integer kind)
  | .float kind =>
    match source with
    | .scalar (.float x) => narrow x.cast kind
    | source =>
      match source.toInt? with
      | some value => narrow (.ofInt value) kind
      | none => source.unsupported (.float kind)
  | .bool =>
    match source with
    | .scalar (.bool value) => .ok (.bool value)
    | .scalar (.string text) => Scalar.orUnreadable text .bool (Scalar.boolOfText text)
    | source => source.unsupported .bool
  | .string => .ok (.string source.toText)
  | .bytes =>
    match source with
    | .scalar (.bytes bytes) => .ok (.bytes bytes)
    | .scalar (.string text) => .ok (.bytes (Text.bytesOf text))
    | .scalar (.structured (.array elements)) =>
      match Json.bytes? elements with
      | some bytes => .ok (.bytes bytes)
      | none => source.unsupported .bytes
    | source => source.unsupported .bytes
  | .timestamp =>
    match source with
    | .scalar (.timestamp t) => .ok (.timestamp t)
    | .scalar (.string text) =>
      Scalar.orUnreadable text .timestamp (Scalar.timestampOfText text.toList)
    | source => source.unsupported .timestamp
  | .structured =>
    match source with
    | .scalar (.structured value) => .ok (.structured value)
    | source => source.unsupported .structured

/-- Converts a value into a kind. -/
def convert (source : RawValue) (kind : Kind) : Result (Scalar kind) :=
  if source.isNull then .error .nilValue else convertPresent source kind

end NamedConstants
