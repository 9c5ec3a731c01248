import NamedConstants.FileTree.Workspace
import NamedConstants.Generation.Output

/-!
# The sources of a run

An input that is a file is a source, whatever it holds. An input that is a
directory stands for the files in it, at any depth, that are named as sources,
are not named as companions, and hold the marker of a directive. Any other
input is an error.
-/

set_option autoImplicit false

namespace NamedConstants.Generation

/-- The file is named as a source and not as a companion. -/
def isSourceName (suffix : String) (name : FileName) : Bool :=
  Path.extension? name == some ("rs" : FileName) && !isCompanionName suffix name

/-- The text holds the marker of a directive. -/
def isMarked (text : String) : Bool :=
  Text.occursIn Options.marker.toList text.toList

/-- A file in a directory counts as a source. -/
def isSource (workspace : Workspace) (suffix : String) (location : Location) : Bool :=
  location.getLast?.any (isSourceName suffix) && (workspace.textAt? location).any isMarked

/-- The path of a file that is found below a directory. -/
def pathBelow (input : Path) (directory location : Location) : Path :=
  input.join ⟨false, location.drop directory.length⟩

/-- The sources that an input stands for. -/
def sourcesOf (configuration : Configuration) (workspace : Workspace) (input : Path) :
    Result (List Path) :=
  match workspace.locate? input with
  | some location =>
    if workspace.tree.isFile location then .ok [input]
    else if workspace.tree.isDirectory location then
      .ok (((workspace.tree.filesBelow location).filter
        (isSource workspace configuration.outputSuffix)).map (pathBelow input location))
    else .error (.invalidPath input.text)
  | none => .error (.invalidPath input.text)

/-- The sources that several inputs stand for, in the order of the inputs. -/
def sources (configuration : Configuration) (workspace : Workspace) :
    List Path → Result (List Path)
  | [] => .ok []
  | input :: inputs => do
    let first ← sourcesOf configuration workspace input
    return first ++ (← sources configuration workspace inputs)

end NamedConstants.Generation
