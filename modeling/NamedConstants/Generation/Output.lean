import NamedConstants.Configuration.Basic
import NamedConstants.Path

/-!
# Where companions go

The companion of a source lies in the directory of the source. Its name is a
text: what is shown of the stem of the source's name, with the suffix and the
extension of sources behind it. A name with a blank in it is refused.
-/

set_option autoImplicit false

namespace NamedConstants.Generation

/-- The text that names the companion of a file. -/
def companionText (suffix : String) (name : FileName) : String :=
  (Path.stem name).text ++ suffix ++ ".rs"

/-- The name of the companion of a file. -/
def companionName (suffix : String) (name : FileName) : FileName :=
  companionText suffix name

/-- The name ends as the names of companions do. -/
def isCompanionName (suffix : String) (name : FileName) : Bool :=
  (suffix ++ ".rs").toList.isSuffixOf name.text.toList

/-- The path of the companion of a source. -/
def outputPath (configuration : Configuration) (source : Path) : Result Path :=
  match source.split? with
  | some (directory, name) =>
    let companion := companionText configuration.outputSuffix name
    if companion.toList.contains ' ' then .error (.invalidPath source.text)
    else .ok (directory.join (.ofText companion))
  | none => .error (.invalidPath source.text)

end NamedConstants.Generation
