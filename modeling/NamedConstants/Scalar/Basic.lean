import NamedConstants.Failure
import NamedConstants.Json.Basic
import NamedConstants.Timestamp.Basic

/-!
# Scalars and values

A scalar is indexed by its kind, so a function that promises a kind has it in
its type. A value of unknown kind is a scalar together with its kind, or null.
-/

set_option autoImplicit false

namespace NamedConstants

/-- The format of a precision. -/
def FloatKind.format : FloatKind → BinaryFormat
  | single => .single
  | double => .double

/-- An integer in the range of its kind. -/
structure BoundedInt (kind : IntegerKind) where
  value : Int
  contains : kind.Contains value
  deriving DecidableEq

/-- A scalar of a kind. -/
inductive Scalar : Kind → Type
  | integer {kind : IntegerKind} (value : BoundedInt kind) : Scalar (.integer kind)
  | float {kind : FloatKind} (value : BinaryFloat kind.format) : Scalar (.float kind)
  | bool (value : Bool) : Scalar .bool
  | string (value : String) : Scalar .string
  | bytes (value : Text.Bytes) : Scalar .bytes
  | timestamp (value : Timestamp) : Scalar .timestamp
  | structured (value : Json) : Scalar .structured

/-- A value whose kind is known at run time only. -/
inductive RawValue
  | null
  | scalar {kind : Kind} (value : Scalar kind)

namespace Scalar

/-- The scalar a kind starts with: zero, false, nothing, the start of 1970. -/
def default : (kind : Kind) → Scalar kind
  | .integer kind => .integer ⟨0, kind.contains_zero⟩
  | .float _ => .float (.zero false)
  | .bool => .bool false
  | .string => .string ""
  | .bytes => .bytes []
  | .timestamp => .timestamp .epoch
  | .structured => .structured .null

/-- The integer as a scalar of the kind, if it is in range. -/
def ofInt? (kind : IntegerKind) (value : Int) : Option (Scalar (.integer kind)) :=
  if h : kind.Contains value then some (.integer ⟨value, h⟩) else none

/-- The integer as a scalar of the kind, or the failure to fit. -/
def ofInt (kind : IntegerKind) (value : Int) : Result (Scalar (.integer kind)) :=
  match ofInt? kind value with
  | some scalar => .ok scalar
  | none => .error (.overflow (toString value) (.integer kind))

/-- The number of an integer scalar. -/
def toInt? {kind : Kind} : Scalar kind → Option Int
  | .integer value => some value.value
  | _ => none

/-- Equality as the kinds have it: floats compare as numbers, also in structured
values, and everything else by what it is. -/
def equal {kind : Kind} : Scalar kind → Scalar kind → Bool
  | .integer x, .integer y => x.value == y.value
  | .float x, .float y => x.equal y
  | .bool x, .bool y => x == y
  | .string x, .string y => x == y
  | .bytes x, .bytes y => x == y
  | .timestamp x, .timestamp y => x.seconds == y.seconds && x.nanos == y.nanos
  | .structured x, .structured y => Json.equal x y

end Scalar

namespace RawValue

/-- The kind of a value; null has none. -/
def kind? : RawValue → Option Kind
  | null => none
  | @scalar kind _ => some kind

/-- The name of the kind in messages. -/
def kindName (value : RawValue) : String :=
  (value.kind?.map Kind.name).getD "null"

def isNull : RawValue → Bool
  | null => true
  | scalar _ => false

/-- The number of an integer value. -/
def toInt? : RawValue → Option Int
  | null => none
  | scalar value => value.toInt?

/-- The scalar of a value that has exactly the kind. -/
def toScalar (kind : Kind) (value : RawValue) : Result (Scalar kind) :=
  match value with
  | @scalar own held =>
    if h : own = kind then .ok (h ▸ held)
    else .error (.unsupportedConversion own.name kind)
  | null => .error (.unsupportedConversion "null" kind)

end RawValue

end NamedConstants
