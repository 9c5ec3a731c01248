import NamedConstants.Declaration.Options
import NamedConstants.Text.WordCase

/-!
# Declared families

What a source file declares: a family is an alias of a scalar type together
with the constants of that type. The names that stand for the family and its
members in the companion are derived from the declared identifiers.
-/

set_option autoImplicit false

namespace NamedConstants

/-- A type that an alias may stand for. -/
structure ScalarType where
  kind : Kind
  /-- The owned type that stores a value. -/
  stored : String
  deriving DecidableEq, Repr

namespace ScalarType

/-- The types that have constants, as they are written without blanks. -/
def table : List (String × ScalarType) :=
  [("i8", ⟨.integer .int8, "i8"⟩), ("i16", ⟨.integer .int16, "i16"⟩),
    ("i32", ⟨.integer .int32, "i32"⟩), ("i64", ⟨.integer .int64, "i64"⟩),
    ("isize", ⟨.integer .int64, "isize"⟩),
    ("u8", ⟨.integer .uint8, "u8"⟩), ("u16", ⟨.integer .uint16, "u16"⟩),
    ("u32", ⟨.integer .uint32, "u32"⟩), ("u64", ⟨.integer .uint64, "u64"⟩),
    ("usize", ⟨.integer .uint64, "usize"⟩),
    ("f32", ⟨.float .single, "f32"⟩), ("f64", ⟨.float .double, "f64"⟩), ("bool", ⟨.bool, "bool"⟩),
    ("&str", ⟨.string, "String"⟩), ("&'staticstr", ⟨.string, "String"⟩),
    ("&[u8]", ⟨.bytes, "Vec<u8>"⟩), ("&'static[u8]", ⟨.bytes, "Vec<u8>"⟩)]

/-- The type of the given spelling; blanks do not count. -/
def ofText? (text : String) : Option ScalarType :=
  table.lookup (String.ofList (text.toList.filter fun c => !Text.isBlank c))

end ScalarType

/-- A named constant of a family. -/
structure Constant where
  ident : String
  /-- The value as a literal. -/
  literal : String
  /-- The canonical name first, then further names; empty when the name follows
  from the identifier. -/
  aliases : List String
  isValid : Bool
  comment : Option String
  deriving DecidableEq, Repr

namespace Constant

/-- The canonical name: the first alias, or else the identifier with its words
capitalized. -/
def name (constant : Constant) : String :=
  constant.aliases.head?.getD (String.ofList (Text.pascalCase constant.ident.toList))

/-- Adds a name that is not there yet. -/
def addName (names : List String) (name : String) : List String :=
  if names.contains name then names else names ++ [name]

/-- Every name the constant answers to, the canonical one first, each once. -/
def lookupNames (constant : Constant) : List String :=
  (constant.aliases.drop 1).foldl addName [constant.name]

/-- The name of the constant's field in the container. -/
def fieldName (uppercase : Bool) (constant : Constant) : String :=
  let ident := constant.ident.toList
  String.ofList (if uppercase then Text.upperSnakeCase ident else Text.snakeCase ident)

end Constant

/-- A declared family: an alias of a scalar type and its constants. -/
structure Declaration where
  typeName : String
  /-- The aliased type as it is written. -/
  underlying : String
  kind : Kind
  /-- The owned type that stores a value. -/
  stored : String
  members : List Constant
  options : Options
  deriving DecidableEq, Repr

namespace Declaration

/-- The name of the wrapper type. -/
def wrapper (declaration : Declaration) : String :=
  String.ofList (Text.pascalCase declaration.typeName.toList) ++ "Enum"

/-- The name of the container type. -/
def container (declaration : Declaration) : String :=
  String.ofList (Text.pascalCase declaration.typeName.toList) ++ "Container"

/-- The name of the value that holds every member. -/
def containerValue (declaration : Declaration) : String :=
  String.ofList (Text.plural (Text.upperSnakeCase declaration.typeName.toList))

/-- The name of the value that holds the table. -/
def tableValue (declaration : Declaration) : String :=
  String.ofList (Text.upperSnakeCase declaration.typeName.toList) ++ "_INDEX"

/-- The expression that turns a constant into the value stored for it. -/
def storedExpression (declaration : Declaration) (ident : String) : String :=
  match declaration.kind with
  | .string => ident ++ ".to_string()"
  | .bytes => ident ++ ".to_vec()"
  | _ => ident

/-- A stored value is copied rather than cloned. -/
def isCopied (declaration : Declaration) : Bool :=
  match declaration.kind with
  | .string | .bytes => false
  | _ => true

/-- A stored value can be a key. -/
def isHashable (declaration : Declaration) : Bool :=
  !declaration.kind.isFloat

end Declaration

end NamedConstants
