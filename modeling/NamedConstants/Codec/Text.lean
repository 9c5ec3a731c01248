import NamedConstants.Family.Basic

/-!
# The text codec

An instance is its name or the text of its raw scalar.
-/

set_option autoImplicit false

namespace NamedConstants.Codec.Text

variable {kind : Kind}

/-- The text of an instance. -/
def encode (family : Family kind) (raw : Scalar kind) : String :=
  match family.representation with
  | .byName => family.nameOf raw
  | .byValue => raw.toText

/-- Reads an instance from text. -/
def decode (family : Family kind) (text : String) : Result (Scalar kind) := do
  let candidate ←
    match family.representation with
    | .byName => pure (Candidate.name text)
    | .byValue => Candidate.value <$> Scalar.ofText text kind
  family.resolve candidate text

/-- Reads an instance from the bytes of a text. -/
def decodeBytes (family : Family kind) (data : NamedConstants.Text.Bytes) :
    Result (Scalar kind) :=
  decode family (NamedConstants.Text.lossyString data)

end NamedConstants.Codec.Text
