import NamedConstants.Companion.Basic

/-!
# The functions of a family

Lookups, the family's trait, and the functions of every serialization surface
that is enabled. What a lookup answers to unknown input depends on the request:
an error, or the sentinel.
-/

set_option autoImplicit false

namespace NamedConstants.Companion

/-- The result type of the library. -/
def resultOf (type : String) : String := core ++ "::Result<" ++ type ++ ">"

/-- What a lookup answers when nothing is found. -/
def missing (failfast : Bool) (shown : String) : String :=
  if failfast then "Err(" ++ core ++ "::EnumforgeError::unknown_constant(" ++ shown ++ "))"
  else "Ok(Self::invalid())"

/-- What the documentation says about unknown input. -/
def missingNote (failfast : Bool) : String :=
  if failfast then "Unknown input is an error." else "Unknown input yields the invalid sentinel."

/-- A lookup with its two answers. -/
def lookup (found missing : String) : Lines :=
  block ("match " ++ found) ["Some(found) => Ok(found),", "None => " ++ missing ++ ","]

/-- The constants that hold the names of the members. -/
def nameConstants (declaration : Declaration) : Lines :=
  if declaration.options.nameConstants then
    declaration.members.map (fun member =>
      "pub const " ++ member.ident ++ "_NAME: &str = " ++ Text.quotedString member.name ++ ";") ++
      [""]
  else []

/-- The functions of the wrapper itself. -/
def inherentLines (declaration : Declaration) (failfast : Bool) : Lines :=
  let table := declaration.tableValue
  let owned := ownedCall declaration
  block ("impl " ++ declaration.wrapper) (nameConstants declaration ++ spaced [
    "/// The invalid sentinel: the zero raw value." ::
      block "pub fn invalid() -> Self" ["Self::default()"],
    "/// Every declared member in declaration order." ::
      block "pub fn all() -> &'static [Self]" [table ++ ".values()"],
    block "pub fn is_valid(&self) -> bool" [table ++ ".is_valid(&self.raw)"],
    ("/// Looks a member up by name or alias. " ++ missingNote failfast) ::
      block ("pub fn parse(name: &str) -> " ++ resultOf "Self")
        (lookup (table ++ ".find_by_name(name)" ++ owned) (missing failfast "name")),
    ("/// Looks a member up by raw value. " ++ missingNote failfast) ::
      block ("pub fn parse_raw(raw: " ++ declaration.stored ++ ") -> " ++ resultOf "Self")
        (lookup (table ++ ".find_by_value(&raw)" ++ owned)
          (missing failfast "format!(\"\x7braw:?\x7d\")")),
    "/// Looks a member up by name from text or bytes, or by value from a" ::
      ("/// number of any width. " ++ missingNote failfast) ::
      block ("pub fn parse_any(input: &" ++ core ++ "::RawValue) -> " ++ resultOf "Self")
        (lookup (core ++ "::lookup::find_any::<Self>(input)?")
          (missing failfast "input.to_string()"))]) ++ [""]

/-- The text form of the wrapper. -/
def displayLines (declaration : Declaration) : Lines :=
  block ("impl ::std::fmt::Display for " ++ declaration.wrapper)
    (block "fn fmt(&self, f: &mut ::std::fmt::Formatter<'_>) -> ::std::fmt::Result"
      ["f.write_str(&<Self as " ++ core ++ "::Enum>::name(self))"]) ++ [""]

/-- The name of a representation in code. -/
def representationName : Representation → String
  | .byName => "Name"
  | .byValue => "Value"

/-- The family's trait. -/
def traitLines (declaration : Declaration) : Lines :=
  let table := declaration.tableValue
  let stored := declaration.stored
  let owned := ownedCall declaration
  let read := if declaration.isCopied then "self.raw" else "self.raw.clone()"
  block ("impl " ++ core ++ "::Enum for " ++ declaration.wrapper) (spaced [
    ["type Raw = " ++ stored ++ ";",
      "const TYPE_NAME: &'static str = " ++ Text.quotedString declaration.typeName ++ ";"],
    block ("fn raw_value(&self) -> " ++ stored) [read],
    block "fn name(&self) -> ::std::borrow::Cow<'static, str>"
      (block ("match " ++ table ++ ".name_of(&self.raw)")
        ["Some(name) => ::std::borrow::Cow::Borrowed(name),",
          "None => ::std::borrow::Cow::Owned(<Self as " ++ core ++ "::Enum>::fallback_name(self)),"]),
    block "fn is_valid(&self) -> bool" [table ++ ".is_valid(&self.raw)"],
    block "fn find_by_name(name: &str) -> Option<Self>" [table ++ ".find_by_name(name)" ++ owned],
    block ("fn find_by_value(value: &" ++ stored ++ ") -> Option<Self>")
      [table ++ ".find_by_value(value)" ++ owned],
    block ("fn serde_format() -> " ++ core ++ "::SerdeFormat")
      [core ++ "::SerdeFormat::" ++ representationName declaration.options.representation],
    block "fn all() -> &'static [Self]" [table ++ ".values()"]]) ++ [""]

/-! ## Serialization surfaces -/

/-- A function that passes the wrapper on to a codec. -/
def encoder (name type codec : String) : Lines :=
  block ("pub fn " ++ name ++ "(&self) -> " ++ resultOf type)
    [core ++ "::codec::" ++ codec ++ "(self)"]

/-- A function that makes a wrapper by a codec. -/
def decoder (head codec argument : String) : Lines :=
  block ("pub fn " ++ head ++ " -> " ++ resultOf "Self")
    [core ++ "::codec::" ++ codec ++ "(" ++ argument ++ ")"]

def jsonLines (declaration : Declaration) : Lines :=
  block ("impl " ++ declaration.wrapper) (spaced [
    encoder "to_json" "Vec<u8>" "json::encode",
    decoder "from_json(data: &[u8])" "json::decode" "data"]) ++ [""]

def textLines (declaration : Declaration) : Lines :=
  block ("impl " ++ declaration.wrapper) (spaced [
    encoder "to_text" "String" "text::encode",
    decoder "from_text(text: &str)" "text::decode" "text"]) ++ [""] ++
  block ("impl ::std::str::FromStr for " ++ declaration.wrapper) (spaced [
    ["type Err = " ++ core ++ "::EnumforgeError;"],
    block "fn from_str(text: &str) -> ::core::result::Result<Self, Self::Err>"
      ["Self::from_text(text)"]]) ++ [""]

def binaryLines (declaration : Declaration) : Lines :=
  block ("impl " ++ declaration.wrapper) (spaced [
    encoder "to_binary" "Vec<u8>" "binary::encode",
    decoder "from_binary(data: &[u8])" "binary::decode" "data"]) ++ [""]

def nodeLines (declaration : Declaration) : Lines :=
  let serde := core ++ "::serde::"
  let wrapper := declaration.wrapper
  block ("impl " ++ wrapper) (spaced [
    encoder "to_node" (core ++ "::serde_value::Value") "node::encode",
    decoder ("from_node<N: " ++ core ++ "::StructuredNode + ?Sized>(node: &N)") "node::decode"
      "node"]) ++ [""] ++
  block ("impl " ++ serde ++ "Serialize for " ++ wrapper)
    (["fn serialize<S>(&self, serializer: S) -> ::core::result::Result<S::Ok, S::Error>",
        "where", "    S: " ++ serde ++ "Serializer,"] ++
      enclosed "\x7b" "\x7d"
        ["let node = self", "    .to_node()",
          "    .map_err(<S::Error as " ++ serde ++ "ser::Error>::custom)?;",
          serde ++ "Serialize::serialize(&node, serializer)"]) ++ [""] ++
  block ("impl<'de> " ++ serde ++ "Deserialize<'de> for " ++ wrapper)
    (["fn deserialize<D>(deserializer: D) -> ::core::result::Result<Self, D::Error>",
        "where", "    D: " ++ serde ++ "Deserializer<'de>,"] ++
      enclosed "\x7b" "\x7d"
        ["let node = <" ++ core ++ "::serde_value::Value as " ++ serde ++
            "Deserialize>::deserialize(deserializer)?;",
          "Self::from_node(&node).map_err(<D::Error as " ++ serde ++ "de::Error>::custom)"]) ++ [""]

def driverLines (declaration : Declaration) : Lines :=
  block ("impl " ++ declaration.wrapper) (spaced [
    encoder "to_driver_value" (core ++ "::DriverValue") "sql::value",
    "/// Scans a driver value into `self`. A null source leaves `self` unchanged." ::
      block ("pub fn scan(&mut self, source: &" ++ core ++ "::RawValue) -> " ++ resultOf "()")
        [core ++ "::codec::sql::scan(self, source)"]]) ++ [""]

/-- The functions of the surfaces that are enabled. -/
def surfaceLines (declaration : Declaration) : Lines :=
  let handlers := declaration.options.handlers
  (if handlers.json then jsonLines declaration else []) ++
    (if handlers.text then textLines declaration else []) ++
    (if handlers.binary then binaryLines declaration else []) ++
    (if handlers.yaml then nodeLines declaration else []) ++
    (if handlers.sql then driverLines declaration else [])

end NamedConstants.Companion
