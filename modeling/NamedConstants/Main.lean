import NamedConstants.CommandLine.Run

/-!
# The program

Reads the part of the file system that a command looks at, runs the command on
it, prints what it prints, and writes the files that it changed.
-/

set_option autoImplicit false

namespace NamedConstants.CommandLine

/-- What is printed for help. -/
def helpText : String :=
  "Usage: enumforge [-c FILE] [-v] [-q] [COMMAND]\n\n" ++
  "Commands:\n" ++
  "  generate [FILES]... [--failfast] [--insensitive] [--suffix SUFFIX] [--dry-run]\n" ++
  "  info [FILES]... [--format pretty|json]\n" ++
  "  init [-f] [--minimal] [--dir DIR]\n" ++
  "  help [COMMAND]\n"

/-- What is said about arguments that name nothing to do. -/
def Usage.message : Usage → String
  | .help => helpText
  | .version => "enumforge " ++ Generation.version ++ "\n"
  | .invalidCommand => "error: unrecognized subcommand\n"
  | .unknownArgument => "error: unexpected argument\n"
  | .invalidValue => "error: missing or invalid value\n"
  | .conflict => "error: an argument cannot be used multiple times\n"
  | .tooManyValues => "error: unexpected value\n"

/-- The path of a location. -/
def pathOf (location : Location) : Path := ⟨true, location⟩

/-- The location that a path spells. -/
def locationOf (directory : Location) (path : Path) : Location :=
  path.pieces.foldl (fun location piece =>
    if Path.isIdle piece then location
    else if piece == ".." then location.dropLast
    else location ++ [piece]) (if path.isAbsolute then [] else directory)

/-- Adds what lies at a location to a tree. -/
partial def observe (tree : FileTree) (location : Location) : IO FileTree := do
  let place := (← IO.currentDir) / (pathOf location).text
  if ← place.isDir then
    let mut grown := tree.makeDirectory location
    for entry in ← place.readDir do
      grown ← observe grown (location ++ [FileName.ofText entry.fileName])
    return grown
  else if ← place.pathExists then
    return tree.write location (← IO.FS.readBinFile place).toList
  else return tree

/-- Adds what paths lead to. -/
def observeAll (workspace : Workspace) (paths : List Path) : IO Workspace := do
  let tree ← paths.foldlM (fun tree path => observe tree (locationOf workspace.directory path))
    workspace.tree
  return { workspace with tree }

/-- The variables of the environment that have the given names. -/
def readVariables (names : List String) : IO Environment :=
  names.filterMapM fun name => do return (← IO.getEnv name).map fun value => (name, value)

/-- The configuration files that may apply. -/
def configurationFiles (workspace : Workspace) (invocation : Invocation) : List Path :=
  match invocation.config with
  | some path => [path]
  | none =>
    (pathOf workspace.directory).ancestors.map fun directory =>
      directory.join (.ofText Configuration.fileName)

/-- The workspace that a command runs in. -/
def workspaceFor (invocation : Invocation) : IO Workspace := do
  let directory := locationOf [] (.ofText (← IO.currentDir).toString)
  let start : Workspace := ⟨FileTree.empty.makeDirectory directory, directory, []⟩
  let configured ← observeAll start (configurationFiles start invocation)
  let names := configured.tree.files.flatMap fun file =>
    (configured.textAt? file.1).elim [] Configuration.referredVariables
  let prepared := { configured with environment := ← readVariables names }
  observeAll prepared (visited prepared invocation)

/-- Writes the files that a command changed. -/
def store (before after : Workspace) : IO Unit :=
  for (location, content) in after.tree.changedSince before.tree do
    IO.FS.createDirAll (pathOf location.dropLast).text
    IO.FS.writeBinFile (pathOf location).text content.toByteArray

/-- Runs a command. -/
def execute (invocation : Invocation) : IO UInt32 := do
  let before ← workspaceFor invocation
  let outcome := run before invocation
  IO.print outcome.output
  store before outcome.workspace
  match outcome.answer with
  | .ok _ => return 0
  | .error failure =>
    IO.eprintln failure.message
    return 1

end NamedConstants.CommandLine

open NamedConstants.CommandLine in
def main (arguments : List String) : IO UInt32 := do
  match Invocation.ofArguments (← readVariables [configVariable]) arguments with
  | .ok invocation => execute invocation
  | .error usage =>
    if usage = .help ∨ usage = .version then
      IO.print usage.message
      return 0
    else
      IO.eprint usage.message
      return 2
