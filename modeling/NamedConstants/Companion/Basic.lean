import NamedConstants.Companion.Layout
import NamedConstants.Declaration.Basic

/-!
# Companion files

A companion is the code that is written for the families of one source file.
It starts with a header that names the source and the command line that writes
the companion again.
-/

set_option autoImplicit false

namespace NamedConstants

/-- What is asked for when a companion is written. -/
structure Request where
  /-- The name of the source file. -/
  source : String
  declarations : List Declaration
  /-- Unknown input is an error in the companion. -/
  failfast : Bool
  /-- Lower-case forms of names are accepted too. -/
  insensitive : Bool
  version : String
  deriving DecidableEq, Repr

namespace Companion

/-- The path of the library that companions refer to. -/
def core : String := "::enumforge_core"

/-- The type of a value that is made when it is first used. -/
def lazyType : String := core ++ "::once_cell::sync::Lazy"

/-- The command line that writes a companion again. -/
def commandLine (request : Request) : String :=
  "enumforge generate" ++ (if request.failfast then " --failfast" else "") ++
    (if request.insensitive then " --insensitive" else "") ++ " " ++ request.source

/-- The first lines of a companion. -/
def header (request : Request) : Lines :=
  ["// Code generated by enumforge " ++ request.version ++ ". DO NOT EDIT.",
    "// Source: " ++ request.source,
    "// Command: " ++ commandLine request]

/-- The call that turns a found member into an owned one. -/
def ownedCall (declaration : Declaration) : String :=
  if declaration.isCopied then ".copied()" else ".cloned()"

/-- The wrapper of a member. -/
def wrapped (declaration : Declaration) (ident : String) : String :=
  declaration.wrapper ++ " \x7b raw: " ++ declaration.storedExpression ident ++ " \x7d"

/-- The line above everything that is written for a family. -/
def title (declaration : Declaration) : Lines :=
  ["// ==================== " ++ declaration.typeName ++ " ====================", ""]

end Companion

end NamedConstants
