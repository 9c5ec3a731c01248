import NamedConstants.Declaration.Basic
import NamedConstants.Json.Indented
import NamedConstants.Path

/-!
# Listing families

The families of several sources, for a reader or as JSON. The listing shows
what the sources declare and writes nothing.
-/

set_option autoImplicit false

namespace NamedConstants.CommandLine

/-- The families of a source. -/
structure Listed where
  source : Path
  declarations : List Declaration
  deriving DecidableEq, Repr

namespace Listed

/-- The first names and what goes on after them. -/
def commaSeparated (texts : List String) : String :=
  ", ".intercalate texts

/-- The line of a member. -/
def constantLine (constant : Constant) : String :=
  let aliases := constant.aliases.drop 1
  "    " ++ constant.ident ++ " = " ++ constant.literal ++ " (" ++ constant.name ++ ")" ++
    (if aliases.isEmpty then "" else " aliases: " ++ commaSeparated aliases) ++
    (if constant.isValid then "" else " [invalid]")

/-- The lines of a family. -/
def declarationLines (declaration : Declaration) : List String :=
  let handlers := declaration.options.handlers.enabled
  ["",
    declaration.typeName ++ " (" ++ declaration.underlying ++ " as " ++ declaration.kind.name ++ ")",
    "  wrapper:  " ++ declaration.wrapper,
    "  serde:    " ++ declaration.options.representation.name,
    "  handlers: " ++ (if handlers.isEmpty then "none" else commaSeparated handlers),
    "  members:"] ++ declaration.members.map constantLine

/-- The lines of a source. -/
def lines (listed : Listed) : List String :=
  ["", "=== " ++ listed.source.text ++ " ==="] ++
    (if listed.declarations.isEmpty then ["  (no enum types)"]
      else listed.declarations.flatMap declarationLines)

/-- The listing of several sources for a reader. -/
def text (sources : List Listed) : String :=
  String.join ((sources.flatMap lines).map (· ++ "\n"))

/-- A list of texts as JSON. -/
def textsJson (texts : List String) : Json := .array (texts.map .string)

/-- A member as JSON. -/
def constantJson (constant : Constant) : Json :=
  .ofMembers [
    ("ident", .string constant.ident),
    ("value", .string constant.literal),
    ("name", .string constant.name),
    ("aliases", textsJson (constant.aliases.drop 1)),
    ("valid", .bool constant.isValid),
    ("comment", constant.comment.elim .null .string)]

/-- A family as JSON. -/
def declarationJson (declaration : Declaration) : Json :=
  .ofMembers [
    ("type", .string declaration.typeName),
    ("underlying", .string declaration.underlying),
    ("kind", .string declaration.kind.name),
    ("wrapper", .string declaration.wrapper),
    ("serde", .string declaration.options.representation.name),
    ("handlers", textsJson declaration.options.handlers.enabled),
    ("members", .array (declaration.members.map constantJson))]

/-- The listing of several sources as JSON. -/
def json (sources : List Listed) : Json :=
  .array (sources.map fun listed =>
    .ofMembers [
      ("path", .string listed.source.text),
      ("enums", .array (listed.declarations.map declarationJson))])

end Listed

end NamedConstants.CommandLine
