import NamedConstants.Family.Basic
import NamedConstants.Text.Blank
import NamedConstants.Text.Piece

/-!
# Options of a declared family

Which serialization surfaces a family has and how its companion is written.
Options are given in a directive, a documentation line that starts with a
marker and lists flags; a later flag wins over an earlier one.
-/

set_option autoImplicit false

namespace NamedConstants

/-- The serialization surfaces of a family. -/
structure Handlers where
  json : Bool
  text : Bool
  binary : Bool
  yaml : Bool
  sql : Bool
  deriving DecidableEq, Repr

namespace Handlers

/-- No surface. -/
def none : Handlers := ⟨false, false, false, false, false⟩

/-- Every surface. -/
def all : Handlers := ⟨true, true, true, true, true⟩

/-- The names of the surfaces that are enabled, in a fixed order. -/
def enabled (handlers : Handlers) : List String :=
  [("json", handlers.json), ("text", handlers.text), ("binary", handlers.binary),
    ("yaml", handlers.yaml), ("sql", handlers.sql)].filterMap
    fun (name, isEnabled) => if isEnabled then some name else Option.none

end Handlers

/-- How the companion of one family is written. -/
structure Options where
  typeName : String
  /-- The fields of the container are in upper case. -/
  uppercaseFields : Bool
  /-- Every member has a constant that holds its name. -/
  nameConstants : Bool
  handlers : Handlers
  representation : Representation
  deriving DecidableEq, Repr

namespace Options

/-- The options of a family that asks for nothing. -/
def plain (typeName : String) : Options :=
  ⟨typeName, false, false, .none, .byName⟩

/-- The options after one more flag; `none` when there is no such flag. -/
def withFlag? (options : Options) (flag : String) : Option Options :=
  match flag with
  | "-json" => some { options with handlers.json := true }
  | "-text" => some { options with handlers.text := true }
  | "-binary" => some { options with handlers.binary := true }
  | "-yaml" => some { options with handlers.yaml := true }
  | "-serde" => some { options with handlers.yaml := true }
  | "-sql" => some { options with handlers.sql := true }
  | "-all" => some { options with handlers := .all }
  | "-uppercaseFields" => some { options with uppercaseFields := true }
  | "-genName" => some { options with nameConstants := true }
  | "-serde/name" => some { options with representation := .byName }
  | "-serde/value" => some { options with representation := .byValue }
  | _ => none

/-- The options after a list of flags. -/
def withFlags (options : Options) : List String → Result Options
  | [] => .ok options
  | flag :: rest =>
    match options.withFlag? flag with
    | some next => next.withFlags rest
    | none =>
      .error (.directive ("unknown flag " ++ Text.quotedString flag ++ " on type " ++
        options.typeName))

/-- The marker that starts a directive. -/
def marker : String := "enumforge:"

/-- The flags of a directive; `none` for any other line. -/
def flags? (line : String) : Option (List String) :=
  (Text.after? marker.toList (Text.trim line.toList)).map fun arguments =>
    (Text.words arguments).map String.ofList

/-- The options a documentation line asks for, if it is a directive. -/
def ofLine (typeName line : String) : Result (Option Options) :=
  match flags? line with
  | none => .ok none
  | some flags => ((plain typeName).withFlags flags).map some

end Options

end NamedConstants
