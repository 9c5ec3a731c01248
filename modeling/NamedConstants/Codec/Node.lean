import NamedConstants.Family.Basic
import NamedConstants.Node.Document

/-!
# The node codec

An instance is a string node with its name or the node of its raw scalar.
-/

set_option autoImplicit false

namespace NamedConstants.Codec.Node

variable {kind : Kind}

/-- The node of an instance. -/
def encode (family : Family kind) (raw : Scalar kind) : NamedConstants.Node :=
  match family.representation with
  | .byName => .string (family.nameOf raw)
  | .byValue => .ofScalar raw

/-- Reads a name from a document. -/
def readName (document : Document) : Result String := do
  match ← document.toScalar .string with
  | .string name => return name

/-- Reads an instance from a document. -/
def decode (family : Family kind) (document : Document) : Result (Scalar kind) :=
  match family.representation with
  | .byName => do
    let name ← readName document
    family.resolve (.name name) name
  | .byValue => do
    let raw ← document.toScalar kind
    family.resolve (.value raw) raw.toText

end NamedConstants.Codec.Node
