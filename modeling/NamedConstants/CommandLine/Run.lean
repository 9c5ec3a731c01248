import NamedConstants.CommandLine.Invocation
import NamedConstants.CommandLine.Listing
import NamedConstants.CommandLine.Template
import NamedConstants.Configuration.Search
import NamedConstants.Generation.Basic

/-!
# Running commands

A command answers, prints and leaves a workspace. What was printed and written
before a failure stays.
-/

set_option autoImplicit false

namespace NamedConstants.CommandLine

/-- What a command answers. -/
inductive Answer
  /-- Nothing but success. -/
  | done
  /-- The companions that were written. -/
  | report (report : Report)
  /-- The file that was written. -/
  | created (path : Path)
  deriving DecidableEq, Repr

/-- What a command answers, prints and leaves. -/
structure Outcome where
  answer : Result Answer
  output : String
  workspace : Workspace

namespace Outcome

/-- A failure before anything happened. -/
def failed (workspace : Workspace) (failure : Failure) : Outcome :=
  ⟨.error failure, "", workspace⟩

end Outcome

/-! ## Settings and inputs -/

/-- The configuration under the switches of `generate`. -/
def override (configuration : Configuration) (invocation : Invocation)
    (options : GenerateOptions) : Result Configuration := do
  let switched := { configuration with
    failfast := configuration.failfast || options.failfast
    insensitive := configuration.insensitive || options.insensitive
    verbose := configuration.verbose || invocation.isVerbose }
  match options.suffix with
  | none => return switched
  | some outputSuffix => do
    Configuration.checkSuffix outputSuffix
    return { switched with outputSuffix }

/-- The inputs, or the configured ones; there has to be one. -/
def inputs (configuration : Configuration) (files : List Path) : Result (List Path) :=
  match Generation.inputsOr configuration files with
  | [] => .error (.configuration
      "no input files given and no `filenames` configured in enumforge.toml")
  | paths => .ok paths

/-- What `generate` works with. -/
def generateSettings (workspace : Workspace) (invocation : Invocation)
    (options : GenerateOptions) : Result (Configuration × List Path) := do
  let configuration ← Configuration.load workspace invocation.config
  let switched ← override configuration invocation options
  return (switched, ← inputs switched options.files)

/-- What `info` works with. -/
def infoSettings (workspace : Workspace) (invocation : Invocation) (options : InfoOptions) :
    Result (Configuration × List Path) := do
  let configuration ← Configuration.load workspace invocation.config
  return (configuration, ← inputs configuration options.files)

/-- The paths that a command looks at, apart from configurations. -/
def visited (workspace : Workspace) (invocation : Invocation) : List Path :=
  match invocation.command with
  | some (.generate options) => (generateSettings workspace invocation options).toOption.elim [] Prod.snd
  | some (.info options) => (infoSettings workspace invocation options).toOption.elim [] Prod.snd
  | some (.init options) => [options.directory.join (.ofText Configuration.fileName), options.directory]
  | none => (generateSettings workspace invocation .default).toOption.elim [] Prod.snd

/-! ## Commands -/

/-- The line of a companion. -/
def fileLine (file : WrittenFile) : String :=
  file.source.text ++ " -> " ++ file.output.text ++ " (" ++ toString file.familyCount ++
    " enum(s), " ++ toString file.byteCount ++ " bytes)\n"

/-- Renders sources one after the other, until one of them fails, and prints
the line of each companion. -/
def previewEach (configuration : Configuration) (workspace : Workspace) :
    List Path → Result Unit × String
  | [] => (.ok (), "")
  | source :: sources =>
    match Generation.render configuration workspace source with
    | .error failure => (.error failure, "")
    | .ok rendered =>
      let (result, output) := previewEach configuration workspace sources
      (result, fileLine rendered.written ++ output)

/-- Shows what would be written. -/
def preview (configuration : Configuration) (workspace : Workspace) (inputs : List Path) :
    Outcome :=
  match Generation.sources configuration workspace inputs with
  | .error failure => .failed workspace failure
  | .ok sources =>
    let (result, output) := previewEach configuration workspace sources
    ⟨result.map fun _ => .done, output, workspace⟩

/-- Writes companions. -/
def produce (configuration : Configuration) (workspace : Workspace) (inputs : List Path) :
    Outcome :=
  match Generation.generate configuration workspace inputs with
  | (.error failure, after) => .failed after failure
  | (.ok report, after) =>
    let output := if configuration.verbose then String.join (report.files.map fileLine) else ""
    ⟨.ok (.report report), output, after⟩

/-- The command that writes companions. -/
def generate (workspace : Workspace) (invocation : Invocation) (options : GenerateOptions) :
    Outcome :=
  match generateSettings workspace invocation options with
  | .error failure => .failed workspace failure
  | .ok (configuration, inputs) =>
    if options.isDryRun then preview configuration workspace inputs
    else produce configuration workspace inputs

/-- The families of a source. -/
def list (configuration : Configuration) (workspace : Workspace) (source : Path) :
    Result Listed := do
  let text ← Generation.sourceText workspace source
  return ⟨source, ← Declaration.scan configuration source.text text⟩

/-- The listing of the families of all sources. -/
def listing (workspace : Workspace) (invocation : Invocation) (options : InfoOptions) :
    Result String := do
  let (configuration, inputs) ← infoSettings workspace invocation options
  let sources ← Generation.sources configuration workspace inputs
  let listed ← sources.mapM (list configuration workspace)
  match options.format with
  | .pretty => return Listed.text listed
  | .json => return (Listed.json listed).toIndentedText ++ "\n"

/-- The command that lists families. -/
def info (workspace : Workspace) (invocation : Invocation) (options : InfoOptions) : Outcome :=
  match listing workspace invocation options with
  | .error failure => .failed workspace failure
  | .ok output => ⟨.ok .done, output, workspace⟩

/-- Writes a configuration file and returns its path. -/
def createConfiguration (workspace : Workspace) (options : InitOptions) :
    Result (Path × Workspace) := do
  let path := options.directory.join (.ofText Configuration.fileName)
  if workspace.isThere path && !options.isForced then
    throw (.configuration (path.text ++ " already exists"))
  let prepared ← workspace.makeDirectories options.directory
  let template := if options.isMinimal then minimalTemplate else fullTemplate
  return (path, ← prepared.write path template)

/-- The command that writes a configuration file. -/
def init (workspace : Workspace) (options : InitOptions) : Outcome :=
  match createConfiguration workspace options with
  | .error failure => .failed workspace failure
  | .ok (path, after) => ⟨.ok (.created path), "", after⟩

/-- Runs what was asked for. Without a command companions are written for the
configured inputs, and there is no report. -/
def run (workspace : Workspace) (invocation : Invocation) : Outcome :=
  match invocation.command with
  | some (.generate options) => generate workspace invocation options
  | some (.info options) => info workspace invocation options
  | some (.init options) => init workspace options
  | none =>
    let outcome := generate workspace invocation .default
    { outcome with answer := outcome.answer.map fun _ => .done }

end NamedConstants.CommandLine
