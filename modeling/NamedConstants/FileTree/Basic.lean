import NamedConstants.FileName

/-!
# File trees

The files of a file system by their locations. A location is the list of names
on the way from the root, so the files of a directory are those whose locations
start with its own. A directory is there when something lies in it or when it
was made on its own.
-/

set_option autoImplicit false

namespace NamedConstants

/-- The names on the way from the root. -/
abbrev Location := List FileName

/-- The files and the directories of a file system. -/
structure FileTree where
  files : List (Location × Text.Bytes)
  /-- The directories that were made on their own. -/
  directories : List Location
  deriving DecidableEq, Repr

namespace FileTree

/-- The tree without files. -/
def empty : FileTree := ⟨[], []⟩

/-- The location lies in the directory, at any depth. -/
def isBelow (directory location : Location) : Bool :=
  directory.isPrefixOf location && directory != location

/-- The content of a file. -/
def content? (tree : FileTree) (location : Location) : Option Text.Bytes :=
  tree.files.lookup location

/-- There is a file at the location. -/
def isFile (tree : FileTree) (location : Location) : Bool :=
  (tree.content? location).isSome

/-- There is a directory at the location. -/
def isDirectory (tree : FileTree) (location : Location) : Bool :=
  location.isEmpty || tree.directories.any (location.isPrefixOf ·) ||
    tree.files.any fun file => isBelow location file.1

/-- The locations of the files in a directory, at any depth: the entries of
every directory are visited in the order of the bytes of their names. -/
def filesBelow (tree : FileTree) (directory : Location) : List Location :=
  ((tree.files.map Prod.fst).filter (isBelow directory)).mergeSort fun one other =>
    !decide (other.map FileName.bytes < one.map FileName.bytes)

/-- Writes a file. -/
def write (tree : FileTree) (location : Location) (content : Text.Bytes) : FileTree :=
  { tree with files := put tree.files }
where
  /-- The content takes the place of the old one, or comes last. -/
  put : List (Location × Text.Bytes) → List (Location × Text.Bytes)
    | [] => [(location, content)]
    | (other, old) :: rest =>
      if other == location then (location, content) :: rest else (other, old) :: put rest

/-- Makes a directory. -/
def makeDirectory (tree : FileTree) (location : Location) : FileTree :=
  { tree with directories := tree.directories ++ [location] }

/-- The files of a tree that another tree has not, or has with other content. -/
def changedSince (tree before : FileTree) : List (Location × Text.Bytes) :=
  tree.files.filter fun file => before.content? file.1 != some file.2

end FileTree

end NamedConstants
