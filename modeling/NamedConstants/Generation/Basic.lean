import NamedConstants.Companion.Writer
import NamedConstants.Declaration.Scan
import NamedConstants.Generation.Sources

/-!
# Generating companions

A companion is first rendered in memory and then written next to its source. A
run collects all sources before it writes anything, and then takes one source
after the other: what is written stays written when a later source fails.
-/

set_option autoImplicit false

namespace NamedConstants

/-- A companion in memory. -/
structure Rendered where
  source : Path
  output : Path
  text : String
  declarations : List Declaration
  deriving DecidableEq, Repr

/-- A companion that is written. -/
structure WrittenFile where
  source : Path
  output : Path
  byteCount : Nat
  familyCount : Nat
  deriving DecidableEq, Repr

/-- What a run has written. -/
structure Report where
  files : List WrittenFile
  deriving DecidableEq, Repr

/-- The number of families in all files. -/
def Report.familyCount (report : Report) : Nat :=
  (report.files.map WrittenFile.familyCount).foldr (· + ·) 0

/-- The number of bytes in all files. -/
def Report.byteCount (report : Report) : Nat :=
  (report.files.map WrittenFile.byteCount).foldr (· + ·) 0

/-- What is reported once the companion is written. -/
def Rendered.written (rendered : Rendered) : WrittenFile :=
  ⟨rendered.source, rendered.output, rendered.text.utf8ByteSize, rendered.declarations.length⟩

namespace Generation

/-- The version that companions name. -/
def version : String := "0.1.0"

/-- The request for the companion of a source. -/
def request (configuration : Configuration) (source : String) (declarations : List Declaration) :
    Request :=
  { source, declarations, version
    failfast := configuration.failfast
    insensitive := configuration.insensitive }

/-- The families of a text, of which there has to be one. -/
def families (configuration : Configuration) (filename text : String) :
    Result (List Declaration) := do
  match ← Declaration.scan configuration filename text with
  | [] => throw (.noFamilies filename)
  | declarations => return declarations

/-- The companion of a text that is no file. -/
def companionOfText (configuration : Configuration) (filename text : String) : Result String := do
  let declarations ← families configuration filename text
  let _ ← outputPath configuration (.ofText filename)
  return Companion.write (request configuration filename declarations)

/-- The text of a source file. -/
def sourceText (workspace : Workspace) (source : Path) : Result String :=
  match workspace.text? source with
  | some text => .ok text
  | none => .error (.sourceText source.text "failed to read source")

/-- The companion of a source file. -/
def render (configuration : Configuration) (workspace : Workspace) (source : Path) :
    Result Rendered := do
  let output ← outputPath configuration source
  let text ← sourceText workspace source
  let declarations ← families configuration source.text text
  let name := (source.fileName?.map FileName.text).getD source.text
  return ⟨source, output, Companion.write (request configuration name declarations), declarations⟩

/-- Writes the companion of a source file. -/
def generateFile (configuration : Configuration) (workspace : Workspace) (source : Path) :
    Result (WrittenFile × Workspace) := do
  let rendered ← render configuration workspace source
  let after ← workspace.write rendered.output rendered.text
  return (rendered.written, after)

/-- Writes the companions of source files one after the other, until one of
them fails. -/
def generateEach (configuration : Configuration) (workspace : Workspace) :
    List Path → Result (List WrittenFile) × Workspace
  | [] => (.ok [], workspace)
  | source :: sources =>
    match generateFile configuration workspace source with
    | .error failure => (.error failure, workspace)
    | .ok (file, after) =>
      let (files, last) := generateEach configuration after sources
      (files.map (file :: ·), last)

/-- Writes the companions of all sources that the inputs stand for. -/
def generate (configuration : Configuration) (workspace : Workspace) (inputs : List Path) :
    Result Report × Workspace :=
  match sources configuration workspace inputs with
  | .error failure => (.error failure, workspace)
  | .ok found =>
    let (files, last) := generateEach configuration workspace found
    (files.map Report.mk, last)

/-- The inputs, or the ones that are configured when there are none. -/
def inputsOr (configuration : Configuration) : List Path → List Path
  | [] => configuration.filenames.map Path.ofText
  | inputs => inputs

end Generation

end NamedConstants
