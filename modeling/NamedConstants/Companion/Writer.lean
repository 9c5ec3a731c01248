import NamedConstants.Companion.Container
import NamedConstants.Companion.Methods
import NamedConstants.Companion.Table

/-!
# Writing a companion

The parts of a companion in order: the header, and for every family its title,
wrapper, container, table and functions.
-/

set_option autoImplicit false

namespace NamedConstants.Companion

/-- Everything that is written for one family. -/
def declarationLines (request : Request) (declaration : Declaration) : Lines :=
  title declaration ++ wrapperLines declaration ++ containerLines declaration ++
    tableLines declaration request.insensitive ++ inherentLines declaration request.failfast ++
    displayLines declaration ++ traitLines declaration ++ surfaceLines declaration

/-- All lines of a companion. -/
def lines (request : Request) : Lines :=
  header request ++
    request.declarations.flatMap fun declaration => "" :: declarationLines request declaration

/-- The text of a companion. -/
def write (request : Request) : String :=
  text (lines request)

end NamedConstants.Companion
