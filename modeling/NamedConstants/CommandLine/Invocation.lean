import NamedConstants.CommandLine.Reading
import NamedConstants.Configuration.Substitution
import NamedConstants.Path

/-!
# Invocations

What the arguments ask for. The configuration file may also be named by the
environment. A switch that may stand anywhere counts at the command before it
counts at the program, and the environment counts last.
-/

set_option autoImplicit false

namespace NamedConstants.CommandLine

/-- How families are listed. -/
inductive Format
  | pretty
  | json
  deriving DecidableEq, Repr

/-- What `generate` is asked for. -/
structure GenerateOptions where
  files : List Path
  failfast : Bool
  insensitive : Bool
  suffix : Option String
  /-- Nothing is written. -/
  isDryRun : Bool
  deriving DecidableEq, Repr

/-- What `generate` is asked for when there is no command. -/
def GenerateOptions.default : GenerateOptions := ⟨[], false, false, none, false⟩

/-- What `info` is asked for. -/
structure InfoOptions where
  files : List Path
  format : Format
  deriving DecidableEq, Repr

/-- What `init` is asked for. -/
structure InitOptions where
  directory : Path
  /-- A configuration that is there is replaced. -/
  isForced : Bool
  isMinimal : Bool
  deriving DecidableEq, Repr

/-- A command with its options. -/
inductive Command
  | generate (options : GenerateOptions)
  | info (options : InfoOptions)
  | init (options : InitOptions)
  deriving DecidableEq, Repr

/-- What the arguments ask for. -/
structure Invocation where
  /-- The configuration file that is named. -/
  config : Option Path
  isVerbose : Bool
  isQuiet : Bool
  command : Option Command
  deriving DecidableEq, Repr

/-- The variable that names the configuration file. -/
def configVariable : String := "ENUMFORGE_CONFIG"

/-- The configuration file that the environment names, unless the arguments of
a level name one. -/
def configFile? (environment : Environment) (reading : Reading) :
    Except Usage (Option String) :=
  match reading.has .config, environment.lookup configVariable with
  | false, some file => if Switch.config.accepts file then .ok (some file) else .error .invalidValue
  | _, _ => .ok none

/-- The paths of the files that were given. -/
def Reading.paths (reading : Reading) : List Path := reading.files.map Path.ofText

/-- The options of `generate`. -/
def GenerateOptions.ofReading (reading : Reading) : GenerateOptions where
  files := reading.paths
  failfast := reading.has .failfast
  insensitive := reading.has .insensitive
  suffix := reading.value? .suffix
  isDryRun := reading.has .dryRun

/-- The options of `info`. -/
def InfoOptions.ofReading (reading : Reading) : InfoOptions where
  files := reading.paths
  format := if reading.value? .format == some "json" then .json else .pretty

/-- The options of `init`. -/
def InitOptions.ofReading (reading : Reading) : InitOptions where
  directory := .ofText ((reading.value? .directory).getD ".")
  isForced := reading.has .force
  isMinimal := reading.has .minimal

/-- The commands that have a level of their own. -/
def levelOf? : String → Option (Level × (Reading → Command))
  | "generate" => some (.generate, fun reading => .generate (.ofReading reading))
  | "info" => some (.info, fun reading => .info (.ofReading reading))
  | "init" => some (.init, fun reading => .init (.ofReading reading))
  | _ => none

/-- What the names of commands behind `help` ask for: a command has no commands
of its own. -/
def helpOn : List String → Usage
  | [] => .help
  | [name] => if Level.program.commands.contains name then .help else .invalidCommand
  | _ => .invalidCommand

/-- Reads the arguments of a command. -/
def readLevel (environment : Environment) (level : Level) (arguments : List String) :
    Except Usage Reading := do
  let (reading, _) ← Reading.start.arguments level false arguments
  let settled ← reading.settle
  let _ ← configFile? environment settled
  return settled

/-- Reads a command with its arguments. -/
def readCommand (environment : Environment) : Option (String × List String) →
    Except Usage (Option (Reading × Command))
  | none => .ok none
  | some (name, arguments) =>
    match levelOf? name with
    | none => .error (helpOn arguments)
    | some (level, command) => do
      let reading ← readLevel environment level arguments
      return some (reading, command reading)

/-- Reads what the arguments ask for. -/
def Invocation.ofArguments (environment : Environment) (arguments : List String) :
    Except Usage Invocation := do
  let (reading, rest) ← Reading.start.arguments .program false arguments
  let inner ← readCommand environment rest
  let outer ← reading.settle
  let fallback ← configFile? environment outer
  let readings := inner.toList.map Prod.fst ++ [outer]
  return {
    config := ((readings.findSome? fun reading => reading.value? .config).or fallback).map .ofText
    isVerbose := readings.any fun reading => reading.has .verbose
    isQuiet := readings.any fun reading => reading.has .quiet
    command := inner.map Prod.snd }

end NamedConstants.CommandLine
