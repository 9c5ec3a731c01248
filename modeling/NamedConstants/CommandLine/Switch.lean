/-!
# Switches

The switches of the command line as data: how they are spelled, what they take
and which values they accept. A level of the command line is the program itself
or one of its commands, and knows which switches, commands and files may stand
there.
-/

set_option autoImplicit false

namespace NamedConstants.CommandLine

/-- Why the arguments name nothing to do. -/
inductive Usage
  /-- Help was asked for. -/
  | help
  /-- The version was asked for. -/
  | version
  /-- There is no command of that name. -/
  | invalidCommand
  /-- Nothing is spelled like that here. -/
  | unknownArgument
  /-- A value is missing or is not accepted. -/
  | invalidValue
  /-- A switch that may be given once is repeated. -/
  | conflict
  /-- A switch that takes no value has one. -/
  | tooManyValues
  deriving DecidableEq, Repr

/-- A switch. -/
inductive Switch
  | help
  | version
  | config
  | verbose
  | quiet
  | failfast
  | insensitive
  | suffix
  | dryRun
  | format
  | force
  | minimal
  | directory
  deriving DecidableEq, Repr

/-- What a switch takes. -/
inductive Takes
  /-- Nothing, and it is given once. -/
  | nothing
  /-- Nothing, and it may be repeated. -/
  | repetition
  /-- A value, and it is given once. -/
  | value
  /-- Nothing: the reading of the arguments ends with it. -/
  | stop (usage : Usage)
  deriving DecidableEq, Repr

namespace Switch

/-- The spelling behind two dashes. -/
def long : Switch → String
  | help => "help"
  | version => "version"
  | config => "config"
  | verbose => "verbose"
  | quiet => "quiet"
  | failfast => "failfast"
  | insensitive => "insensitive"
  | suffix => "suffix"
  | dryRun => "dry-run"
  | format => "format"
  | force => "force"
  | minimal => "minimal"
  | directory => "dir"

/-- The spelling behind one dash. -/
def short? : Switch → Option Char
  | help => some 'h'
  | version => some 'V'
  | config => some 'c'
  | verbose => some 'v'
  | quiet => some 'q'
  | force => some 'f'
  | _ => none

/-- What the switch takes. -/
def takes : Switch → Takes
  | help => .stop .help
  | version => .stop .version
  | verbose => .repetition
  | config | suffix | format | directory => .value
  | _ => .nothing

/-- The value is accepted: a path is not empty and a format is known. -/
def accepts : Switch → String → Bool
  | config, value | directory, value => value != ""
  | format, value => value == "pretty" || value == "json"
  | _, _ => true

end Switch

/-- The program or one of its commands. -/
structure Level where
  switches : List Switch
  commands : List String
  takesFiles : Bool
  deriving DecidableEq, Repr

namespace Level

/-- The switches that may stand anywhere. -/
def common : List Switch :=
  [.config, .verbose, .quiet, .help, .version]

/-- The program. -/
def program : Level :=
  ⟨common, ["generate", "info", "init", "help"], false⟩

/-- The command that writes companions. -/
def generate : Level :=
  ⟨[.failfast, .insensitive, .suffix, .dryRun] ++ common, [], true⟩

/-- The command that lists families. -/
def info : Level :=
  ⟨.format :: common, [], true⟩

/-- The command that writes a configuration. -/
def init : Level :=
  ⟨[.force, .minimal, .directory] ++ common, [], false⟩

/-- The switch of a long spelling. -/
def long? (level : Level) (name : String) : Option Switch :=
  level.switches.find? fun switch => switch.long == name

/-- The switch of a short spelling. -/
def short? (level : Level) (name : Char) : Option Switch :=
  level.switches.find? fun switch => switch.short? == some name

end Level

end NamedConstants.CommandLine
