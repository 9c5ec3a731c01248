import NamedConstants.Codec.Node

/-!
# Sample families

Five families as a companion declares them, one for each shape of raw scalar:
a status by name, a status with float values, a request status with name
constants, a palette with upper-case fields, and file signatures.
-/

set_option autoImplicit false

namespace NamedConstants

/-- A family with the container that holds its members. -/
structure Sample where
  kind : Kind
  family : Family kind
  /-- The name of the container. -/
  container : String
  /-- The fields of the container, in the order of the members. -/
  fields : List String
  /-- The family also travels inside other documents. -/
  isNested : Bool

namespace Sample

/-- A family without regard to case. -/
def familyOf {kind : Kind} (typeName : String) (representation : Representation)
    (members : List (Member kind)) : Family kind :=
  .ofMembers typeName representation false members

/-- The scalar of an integer; integers outside the range count as zero. -/
def integer (kind : IntegerKind) (value : Int) : Scalar (.integer kind) :=
  (Scalar.ofInt? kind value).getD (.default _)

/-- The scalar of 32 bits for a decimal. -/
def single (digits : Nat) (exponent : Int) : Scalar (.float .single) :=
  @Scalar.float .single (.ofPattern false (BinaryFormat.single.ofDecimal ⟨digits, exponent⟩))

/-- A status by name; its zero is not valid. -/
def stringStatus : Sample where
  kind := .integer .int32
  family := familyOf "StringStatus" .byName
    [⟨integer _ 0, "StringNone", [], false⟩,
     ⟨integer _ 1, "Active", ["On"], true⟩,
     ⟨integer _ 2, "Inactive", ["Off"], true⟩]
  container := "STRING_STATUSES"
  fields := ["string_none", "string_active", "string_inactive"]
  isNested := true

/-- A status with float values. -/
def primitiveStatus : Sample where
  kind := .float .single
  family := familyOf "PrimitiveStatus" .byValue
    [⟨single 15 (-1), "Active", [], true⟩,
     ⟨single 25 (-1), "Inactive", [], true⟩]
  container := "PRIMITIVE_STATUSES"
  fields := ["primitive_active", "primitive_inactive"]
  isNested := true

/-- The steps of a request. -/
def tokenRequestStatus : Sample where
  kind := .integer .int64
  family := familyOf "TokenRequestStatus" .byValue
    [⟨integer _ 1000, "StepOneInitialized", [], true⟩,
     ⟨integer _ 1001, "StepOneMarkAllowed", [], true⟩,
     ⟨integer _ 9010, "StepOneCanceled", [], true⟩,
     ⟨integer _ 4000, "Completed", [], true⟩]
  container := "TOKEN_REQUEST_STATUSES"
  fields := ["step_one_initialized", "step_one_mark_allowed", "step_one_canceled",
    "step_four_success"]
  isNested := false

/-- A palette of colours by their hexadecimal form. -/
def color : Sample where
  kind := .string
  family := familyOf "Color" .byValue
    [⟨.string "#ff0000", "Red", ["Crimson"], true⟩,
     ⟨.string "#00ff00", "Green", [], true⟩,
     ⟨.string "#0000ff", "Blue", [], true⟩]
  container := "COLORS"
  fields := ["RED", "GREEN", "BLUE"]
  isNested := true

/-- File signatures by their leading bytes. -/
def magic : Sample where
  kind := .bytes
  family := familyOf "Magic" .byValue
    [⟨.bytes [0x89, 0x50, 0x4E, 0x47], "Png", ["PNG"], true⟩,
     ⟨.bytes [0x47, 0x49, 0x46, 0x38], "Gif", [], true⟩,
     ⟨.bytes [0x25, 0x50, 0x44, 0x46], "Pdf", [], true⟩]
  container := "MAGICS"
  fields := ["magic_png", "magic_gif", "magic_pdf"]
  isNested := false

/-- All samples. -/
def all : List Sample :=
  [stringStatus, primitiveStatus, tokenRequestStatus, color, magic]

/-- The sample of the type with the given name. -/
def ofTypeName? (name : String) : Option Sample :=
  all.find? fun sample => sample.family.typeName == name

/-- The names of the request steps, as constants in the order of declaration. -/
def requestStepNames : List String :=
  tokenRequestStatus.family.table.members.map (·.name)

/-- An instance inside a JSON document. -/
def nestedText (sample : Sample) (raw : Scalar sample.kind) : List Char :=
  (Codec.Node.encode sample.family raw).writeJson

/-- Reads an instance from inside a JSON document. -/
def ofNestedText (sample : Sample) (text : List Char) : Result (Scalar sample.kind) :=
  match Json.ofText? text with
  | some value => Codec.Node.decode sample.family (.node (.ofJson value))
  | none => .error (.json "not a JSON document")

end Sample

end NamedConstants
