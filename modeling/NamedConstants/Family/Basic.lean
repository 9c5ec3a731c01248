import NamedConstants.Family.Table
import NamedConstants.Scalar.Coercion

/-!
# Families of named constants

A family is a scalar kind with a table of members. Every scalar of the kind is
an instance of the family: a registered one has the canonical name of its
member, any other one a name made of the name of the type and its own text. A
family says whether its instances travel by name or by value.

Every reader of instances ends in `resolve`, which reports the input as it came
when no member answers to it.
-/

set_option autoImplicit false

namespace NamedConstants

/-- How instances are represented by the codecs. -/
inductive Representation
  | byName
  | byValue
  deriving DecidableEq, Repr

/-- The word for a representation. -/
def Representation.name : Representation → String
  | byName => "name"
  | byValue => "value"

/-- A family of named constants. -/
structure Family (kind : Kind) where
  typeName : String
  representation : Representation
  table : Table kind

/-- What a reader looks a member up by. -/
inductive Candidate (kind : Kind)
  | name (text : String)
  | value (raw : Scalar kind)

namespace Family

variable {kind : Kind}

/-- The family of a list of members. -/
def ofMembers (typeName : String) (representation : Representation) (insensitive : Bool)
    (members : List (Member kind)) : Family kind :=
  ⟨typeName, representation, .ofMembers insensitive members⟩

/-- The name of an instance that is not registered. -/
def fallbackName (family : Family kind) (raw : Scalar kind) : String :=
  lowercase family.typeName ++ "(" ++ raw.toText ++ ")"

/-- The name of an instance. -/
def nameOf (family : Family kind) (raw : Scalar kind) : String :=
  (family.table.nameOf? raw).getD (family.fallbackName raw)

/-- The instance belongs to a valid member. -/
def isValid (family : Family kind) (raw : Scalar kind) : Bool :=
  family.table.isValid raw

/-- The instances of the members, in the order of their declaration. -/
def all (family : Family kind) : List (Scalar kind) :=
  family.table.members.map (·.raw)

/-- The instance of the member that answers to a name. -/
def findByName? (family : Family kind) (name : String) : Option (Scalar kind) :=
  (family.table.findByName? name).map (·.raw)

/-- The instance of the member with a raw scalar. -/
def findByRaw? (family : Family kind) (raw : Scalar kind) : Option (Scalar kind) :=
  (family.table.findByRaw? raw).map (·.raw)

/-- The instance of the member a candidate points to. -/
def find? (family : Family kind) : Candidate kind → Option (Scalar kind)
  | .name text => family.findByName? text
  | .value raw => family.findByRaw? raw

/-- The instance of the member a candidate points to; a miss reports the input.
-/
def resolve (family : Family kind) (candidate : Candidate kind) (source : String) :
    Result (Scalar kind) :=
  match family.find? candidate with
  | some raw => .ok raw
  | none => .error (.unknownConstant source)

/-- A number as a raw scalar, if it has the same value there. A fraction is no
integer. -/
def numberCandidate? (number : RawValue) (kind : Kind) : Option (Scalar kind) :=
  let isFractional :=
    match number with
    | .scalar (.float x) => x.hasFraction
    | _ => false
  if isFractional && kind.isInteger then none else (coerce number kind).toOption

/-- Finds a member from a value of any kind: text and bytes are names, numbers
are values. Other values are a failure. -/
def findAny? (family : Family kind) (input : RawValue) : Result (Option (Scalar kind)) :=
  match input with
  | .null => .error .nilValue
  | .scalar (.string name) => .ok (family.findByName? name)
  | .scalar (.bytes bytes) => .ok (family.findByName? (Text.lossyString bytes))
  | .scalar (.integer n) =>
    .ok ((numberCandidate? (.scalar (.integer n)) kind).bind family.findByRaw?)
  | .scalar (.float x) =>
    .ok ((numberCandidate? (.scalar (.float x)) kind).bind family.findByRaw?)
  | input => input.unsupported kind

/-! ## Lenient lookups

A lookup that never fails on unknown input: it yields the sentinel instead. -/

/-- The sentinel of a kind: the scalar it starts with. -/
def sentinel (kind : Kind) : Scalar kind :=
  .default kind

/-- The instance with the name, or the sentinel. -/
def parse (family : Family kind) (name : String) : Scalar kind :=
  (family.findByName? name).getD (sentinel kind)

/-- The instance with the raw scalar, or the sentinel. -/
def parseRaw (family : Family kind) (raw : Scalar kind) : Scalar kind :=
  (family.findByRaw? raw).getD (sentinel kind)

/-- The instance a value points to, or the sentinel. -/
def parseAny (family : Family kind) (input : RawValue) : Result (Scalar kind) := do
  return (← family.findAny? input).getD (sentinel kind)

end Family

end NamedConstants
