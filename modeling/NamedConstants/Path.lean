import NamedConstants.FileName
import NamedConstants.Text.Piece

/-!
# Paths

A path is a sequence of bytes cut at its slashes. A piece that is empty or a
single dot is idle: it stays where it is in the path, but it names nothing. The
first piece of a relative path is kept even then, since it may be all there is.

The last piece that is not idle may be the name of a file. What stands before
it is the directory of the path, and the directory keeps its spelling when
another name is put behind it.
-/

set_option autoImplicit false

namespace NamedConstants

/-- A path. -/
structure Path where
  /-- The path starts at the root. -/
  isAbsolute : Bool
  /-- What stands between the slashes. -/
  pieces : List FileName
  deriving DecidableEq, Repr

namespace Path

/-! ## Spelling -/

/-- The pieces between the slashes. -/
def cut (bytes : Text.Bytes) : List FileName :=
  (Text.pieces (· == FileName.slash) bytes).map FileName.mk

/-- The path that bytes spell. -/
def ofBytes : Text.Bytes → Path
  | [] => ⟨false, cut []⟩
  | first :: rest =>
    if first == FileName.slash then ⟨true, cut rest⟩ else ⟨false, cut (first :: rest)⟩

/-- The path that a text spells. -/
def ofText (text : String) : Path := ofBytes (Text.bytesOf text)

/-- The spelling of a path. -/
def bytes (path : Path) : Text.Bytes :=
  (if path.isAbsolute then [FileName.slash] else []) ++
    Text.join [FileName.slash] (path.pieces.map FileName.bytes)

/-- What is shown of a path. -/
def text (path : Path) : String := Text.lossyString path.bytes

/-- The piece names nothing. -/
def isIdle (piece : FileName) : Bool :=
  piece == "" || piece == "."

/-- The piece is the name of a file or directory. -/
def isName (piece : FileName) : Bool :=
  !isIdle piece && piece != ".."

/-- Pieces without the idle ones at the end. -/
def trimEnd (pieces : List FileName) : List FileName :=
  (pieces.reverse.dropWhile isIdle).reverse

/-- The path without idle pieces at the end. -/
def trimmed (path : Path) : Path :=
  match path.isAbsolute, path.pieces with
  | false, first :: rest => ⟨false, first :: trimEnd rest⟩
  | isAbsolute, pieces => ⟨isAbsolute, trimEnd pieces⟩

/-! ## The directory and the name -/

/-- The directory and the name of the file that a path leads to. -/
def split? (path : Path) : Option (Path × FileName) :=
  match path.trimmed.pieces.reverse with
  | name :: before =>
    if isName name then some (trimmed ⟨path.isAbsolute, before.reverse⟩, name) else none
  | [] => none

/-- The name of the file that a path leads to. -/
def fileName? (path : Path) : Option FileName :=
  path.split?.map Prod.snd

/-- The path one piece up. -/
def parent? (path : Path) : Option Path :=
  match path.trimmed.pieces.reverse with
  | last :: before =>
    if last == "" then none else some (trimmed ⟨path.isAbsolute, before.reverse⟩)
  | [] => none

/-- A path that is followed from the end of another. -/
def join (directory path : Path) : Path :=
  if path.isAbsolute then path
  else if directory.pieces.getLast? == some ("" : FileName) then
    ⟨directory.isAbsolute, directory.pieces.dropLast ++ path.pieces⟩
  else ⟨directory.isAbsolute, directory.pieces ++ path.pieces⟩

/-- The path and what lies above it, the nearest first. -/
def ancestors (path : Path) : List Path :=
  go path.pieces.length path
where
  /-- A path has no more ancestors than pieces. -/
  go : Nat → Path → List Path
    | 0, path => [path]
    | bound + 1, path =>
      match path.parent? with
      | some parent => path :: go bound parent
      | none => [path]

/-! ## The parts of a name -/

/-- A name cut at its last dot. A dot at the start of the name does not count. -/
def cutName (name : FileName) : FileName × Option FileName :=
  match Text.cut? FileName.dot name.bytes.reverse with
  | some (_, []) | none => (name, none)
  | some (after, before) => (⟨before.reverse⟩, some ⟨after.reverse⟩)

/-- The name without its extension. -/
def stem (name : FileName) : FileName := (cutName name).1

/-- What stands behind the last dot of a name. -/
def extension? (name : FileName) : Option FileName := (cutName name).2

end Path

end NamedConstants
