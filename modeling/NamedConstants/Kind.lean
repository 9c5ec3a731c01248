import NamedConstants.Power

/-!
# Kinds of scalars

The closed set of kinds a scalar can have. Integers come in eight widths with
an inclusive range each, floats in two precisions. The name of a kind is what
messages show.
-/

set_option autoImplicit false

namespace NamedConstants

/-- The widths of integers. -/
inductive IntegerKind
  | int8 | int16 | int32 | int64
  | uint8 | uint16 | uint32 | uint64
  deriving DecidableEq, Repr

namespace IntegerKind

/-- Negative numbers have a place in the range. -/
def isSigned : IntegerKind → Bool
  | int8 | int16 | int32 | int64 => true
  | uint8 | uint16 | uint32 | uint64 => false

/-- The number of bytes of the fixed binary form. -/
def byteWidth : IntegerKind → Nat
  | int8 | uint8 => 1
  | int16 | uint16 => 2
  | int32 | uint32 => 4
  | int64 | uint64 => 8

/-- The number of bits of the fixed binary form. -/
def bitWidth (kind : IntegerKind) : Nat :=
  8 * kind.byteWidth

/-- The smallest number of the kind. -/
def minimum (kind : IntegerKind) : Int :=
  if kind.isSigned then -(twoTo (kind.bitWidth - 1) : Nat) else 0

/-- The largest number of the kind. -/
def maximum (kind : IntegerKind) : Int :=
  if kind.isSigned then (twoTo (kind.bitWidth - 1) : Nat) - 1 else (twoTo kind.bitWidth : Nat) - 1

/-- The number lies in the range of the kind. -/
def Contains (kind : IntegerKind) (value : Int) : Prop :=
  kind.minimum ≤ value ∧ value ≤ kind.maximum

instance (kind : IntegerKind) (value : Int) : Decidable (kind.Contains value) :=
  inferInstanceAs (Decidable (_ ∧ _))

/-- The name shown in messages. -/
def name : IntegerKind → String
  | int8 => "i8"
  | int16 => "i16"
  | int32 => "i32"
  | int64 => "i64"
  | uint8 => "u8"
  | uint16 => "u16"
  | uint32 => "u32"
  | uint64 => "u64"

/-- Every range holds zero. -/
theorem contains_zero (kind : IntegerKind) : kind.Contains 0 := by
  cases kind <;> decide

end IntegerKind

/-- The precisions of floats. -/
inductive FloatKind
  | single | double
  deriving DecidableEq, Repr

/-- The name shown in messages. -/
def FloatKind.name : FloatKind → String
  | single => "f32"
  | double => "f64"

/-- The number of bytes of the fixed binary form. -/
def FloatKind.byteWidth : FloatKind → Nat
  | single => 4
  | double => 8

/-- The kinds of scalars. `structured` is the fallback for anything outside the
scalar set. -/
inductive Kind
  | integer (kind : IntegerKind)
  | float (kind : FloatKind)
  | bool
  | string
  | bytes
  | timestamp
  | structured
  deriving DecidableEq, Repr

namespace Kind

/-- Every kind, in the order they are declared. -/
def all : List Kind :=
  [.integer .int8, .integer .int16, .integer .int32, .integer .int64,
   .integer .uint8, .integer .uint16, .integer .uint32, .integer .uint64,
   .float .single, .float .double, .bool, .string, .bytes, .timestamp, .structured]

/-- The name shown in messages. -/
def name : Kind → String
  | integer kind => kind.name
  | float kind => kind.name
  | bool => "bool"
  | string => "string"
  | bytes => "bytes"
  | timestamp => "timestamp"
  | structured => "structured"

/-- The kind of the given name. -/
def ofName? (name : String) : Option Kind :=
  all.find? fun kind => kind.name == name

/-- The number of bytes of the fixed binary form; the last four kinds have
none. -/
def width? : Kind → Option Nat
  | integer kind => some kind.byteWidth
  | float kind => some kind.byteWidth
  | bool => some 1
  | string | bytes | timestamp | structured => none

def isInteger : Kind → Bool
  | integer _ => true
  | _ => false

def isFloat : Kind → Bool
  | float _ => true
  | _ => false

/-- The kinds whose text form needs no quotes. -/
def isNumericOrBool (kind : Kind) : Bool :=
  kind.isInteger || kind.isFloat || kind == .bool

end Kind

end NamedConstants
