import NamedConstants.Configuration.Document
import NamedConstants.FileTree.Workspace

/-!
# Finding a configuration

The configuration that applies in a directory lies there or in the nearest
directory above it. That none is found is an error only for a file that was
named.
-/

set_option autoImplicit false

namespace NamedConstants.Configuration

/-- The name of configuration files. -/
def fileName : String := "enumforge.toml"

/-- The nearest configuration file at a path or above it. -/
def find? (workspace : Workspace) (path : Path) : Option Path :=
  (path.ancestors.map fun directory => directory.join (.ofText fileName)).find? workspace.isThere

/-- The configuration in a file. -/
def ofFile (workspace : Workspace) (path : Path) : Result Configuration :=
  match workspace.text? path with
  | some text => ofText workspace.environment text
  | none => .error (.unreadableConfiguration ("cannot read " ++ path.text))

/-- The configuration in the named file, or the one that applies in the
directory of the workspace. -/
def load (workspace : Workspace) (named : Option Path) : Result Configuration :=
  match named.or (find? workspace ⟨true, workspace.directory⟩) with
  | some path => ofFile workspace path
  | none => .ok default

end NamedConstants.Configuration
