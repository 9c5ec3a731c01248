import NamedConstants.Family.Basic

/-!
# The binary codec

An instance is the bytes of its name or the binary form of its raw scalar.
-/

set_option autoImplicit false

namespace NamedConstants.Codec.Binary

variable {kind : Kind}

/-- The bytes of an instance. -/
def encode (family : Family kind) (raw : Scalar kind) : Text.Bytes :=
  match family.representation with
  | .byName => Text.bytesOf (family.nameOf raw)
  | .byValue => raw.toBytes

/-- Reads an instance from bytes. -/
def decode (family : Family kind) (data : Text.Bytes) : Result (Scalar kind) :=
  match family.representation with
  | .byName =>
    match Text.stringOf data with
    | .ok name => family.resolve (.name name) name
    | .error fault => .error (.unreadable (Text.lossyString data) .string (.notUtf8 fault))
  | .byValue => do
    family.resolve (.value (← Scalar.ofBytes data kind)) (Text.shownBytes data)

end NamedConstants.Codec.Binary
