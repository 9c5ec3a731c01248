import NamedConstants.Companion.Basic

/-!
# The wrapper and the container of a family

The wrapper stores a raw value. The container has one field for every member,
in the order of declaration, with the member's comment above it.
-/

set_option autoImplicit false

namespace NamedConstants.Companion

/-- The traits that are derived for a wrapper. -/
def derivedTraits (declaration : Declaration) : List String :=
  ["Debug", "Clone"] ++ (if declaration.isCopied then ["Copy"] else []) ++
    ["Default", "PartialEq"] ++ (if declaration.isHashable then ["Eq", "Hash"] else [])

/-- The definition of the wrapper. -/
def wrapperLines (declaration : Declaration) : Lines :=
  ["/// Type-safe wrapper around the [`" ++ declaration.typeName ++ "`] constants.",
    "#[derive(" ++ ", ".intercalate (derivedTraits declaration) ++ ")]"] ++
  block ("pub struct " ++ declaration.wrapper) ["raw: " ++ declaration.stored ++ ","] ++ [""]

/-- The name of a member's field. -/
def fieldOf (declaration : Declaration) (member : Constant) : String :=
  member.fieldName declaration.options.uppercaseFields

/-- The lines of a field: its comment, if there is one, and its definition. -/
def fieldLines (declaration : Declaration) (member : Constant) : Lines :=
  (member.comment.toList.map fun comment => "/// " ++ comment) ++
    ["pub " ++ fieldOf declaration member ++ ": " ++ declaration.wrapper ++ ","]

/-- The value of a field. -/
def fieldValueLine (declaration : Declaration) (member : Constant) : String :=
  fieldOf declaration member ++ ": " ++ wrapped declaration member.ident ++ ","

/-- The definition of the container. -/
def containerStruct (declaration : Declaration) : Lines :=
  block ("pub struct " ++ declaration.container)
    (declaration.members.flatMap (fieldLines declaration))

/-- The container with its only value. -/
def containerLines (declaration : Declaration) : Lines :=
  let container := declaration.container
  ["/// Every declared [`" ++ declaration.wrapper ++ "`] member."] ++
  (if declaration.options.uppercaseFields then ["#[allow(non_snake_case)]"] else []) ++
  containerStruct declaration ++ [""] ++
  enclosed
    ("pub static " ++ declaration.containerValue ++ ": " ++ lazyType ++ "<" ++ container ++ "> = " ++
      lazyType ++ "::new(|| " ++ container ++ " \x7b")
    "\x7d);" (declaration.members.map (fieldValueLine declaration)) ++ [""]

end NamedConstants.Companion
