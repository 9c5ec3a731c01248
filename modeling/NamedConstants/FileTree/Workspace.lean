import NamedConstants.Configuration.Substitution
import NamedConstants.FileTree.Basic
import NamedConstants.Path

/-!
# Workspaces

A workspace is a file tree seen from a directory, with the variables of the
environment. A path is followed piece by piece: every piece has to be taken in
a directory, and only the last one may name something that is not there yet.
-/

set_option autoImplicit false

namespace NamedConstants

/-- A file tree seen from a directory. -/
structure Workspace where
  tree : FileTree
  /-- The directory from which relative paths are followed. -/
  directory : Location
  environment : Environment
  deriving DecidableEq, Repr

namespace Workspace

/-- Takes one piece of a path in a directory. -/
def step? (tree : FileTree) (location : Location) (piece : FileName) : Option Location :=
  if !tree.isDirectory location then none
  else if Path.isIdle piece then some location
  else if piece == ".." then some location.dropLast
  else some (location ++ [piece])

/-- Where a path starts. -/
def start (workspace : Workspace) (path : Path) : Location :=
  if path.isAbsolute then [] else workspace.directory

/-- The location that a path leads to, whether something is there or not. The
empty path leads nowhere. -/
def locate? (workspace : Workspace) (path : Path) : Option Location :=
  if path.bytes.isEmpty then none
  else path.pieces.foldlM (step? workspace.tree) (workspace.start path)

/-- The path leads to a file. -/
def isFile (workspace : Workspace) (path : Path) : Bool :=
  (workspace.locate? path).any workspace.tree.isFile

/-- The path leads to a directory. -/
def isDirectory (workspace : Workspace) (path : Path) : Bool :=
  (workspace.locate? path).any workspace.tree.isDirectory

/-- The path leads to something. -/
def isThere (workspace : Workspace) (path : Path) : Bool :=
  workspace.isFile path || workspace.isDirectory path

/-- The text of the file at a location, if it is one. -/
def textAt? (workspace : Workspace) (location : Location) : Option String :=
  (workspace.tree.content? location).bind fun content => (Text.stringOf content).toOption

/-- The text of the file that a path leads to. -/
def text? (workspace : Workspace) (path : Path) : Option String :=
  (workspace.locate? path).bind workspace.textAt?

/-- Writes the file that a path leads to. -/
def write (workspace : Workspace) (path : Path) (text : String) : Result Workspace :=
  match workspace.locate? path with
  | some location =>
    if workspace.tree.isDirectory location then
      .error (.io (path.text ++ " is a directory"))
    else .ok { workspace with tree := workspace.tree.write location (Text.bytesOf text) }
  | none => .error (.io (path.text ++ " cannot be written"))

/-- Takes one piece of a path, making the directory that it names if there is
nothing. -/
def makeStep? (tree : FileTree) (location : Location) (piece : FileName) :
    Option (FileTree × Location) := do
  let next ← step? tree location piece
  if tree.isDirectory next then some (tree, next)
  else if tree.isFile next then none
  else some (tree.makeDirectory next, next)

/-- Makes the directory that a path leads to, with all directories on the way. -/
def makeDirectories (workspace : Workspace) (path : Path) : Result Workspace :=
  let made := path.pieces.foldlM (fun (tree, location) piece => makeStep? tree location piece)
    (workspace.tree, workspace.start path)
  match made with
  | some (tree, _) => .ok { workspace with tree }
  | none => .error (.io (path.text ++ " cannot be made a directory"))

end Workspace

end NamedConstants
