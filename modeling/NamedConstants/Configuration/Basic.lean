import NamedConstants.Declaration.Options

/-!
# Configuration

The settings that scanning, writing and the command line share, with options
for types that carry no directive of their own. A suffix is refused when it
could move a companion away from its source.
-/

set_option autoImplicit false

namespace NamedConstants

/-- The settings. -/
structure Configuration where
  /-- Unknown input is an error in the companion. -/
  failfast : Bool
  /-- Lower-case forms of names are accepted too. -/
  insensitive : Bool
  /-- Every file that is written is reported. -/
  verbose : Bool
  /-- What is put behind the stem of a source to name its companion. -/
  outputSuffix : String
  /-- The sources that are meant when none are given. -/
  filenames : List String
  /-- Options of types without a directive, by the name of the type. -/
  types : List (String × Options)
  deriving DecidableEq, Repr

namespace Configuration

/-- The settings when nothing is configured. -/
def default : Configuration := ⟨false, false, false, "_enums", [], []⟩

/-- The options of a type without a directive. -/
def optionsOf (configuration : Configuration) (typeName : String) : Options :=
  (configuration.types.lookup typeName).getD (.plain typeName)

/-- The character must not stand in a suffix. -/
def isRefusedInSuffix (c : Char) : Bool :=
  c == '/' || c == '\\' || c == ' '

/-- Refuses a suffix with a path separator or a blank. -/
def checkSuffix (suffix : String) : Result Unit :=
  if suffix.toList.any isRefusedInSuffix then
    .error (.configuration ("output_suffix " ++ Text.quotedString suffix ++
      " must not contain spaces or path separators"))
  else .ok ()

end Configuration

end NamedConstants
