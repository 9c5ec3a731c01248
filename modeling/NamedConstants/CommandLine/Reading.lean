import NamedConstants.CommandLine.Switch
import NamedConstants.Text.Piece

/-!
# Reading arguments

The arguments of one level are read from left to right. A switch that takes a
value may get it from the next argument, and files that follow each other form
a group; both are settled, and only then checked, when something else follows
or the arguments end. An argument that is no switch at this level is refused
before anything is settled.

A double dash ends the switches: what follows it is a file.
-/

set_option autoImplicit false

namespace NamedConstants.CommandLine

/-- What is read but not settled. -/
inductive Waiting
  | nothing
  /-- A switch whose value is still to come. -/
  | valueOf (switch : Switch)
  /-- A switch with its value. -/
  | value (switch : Switch) (value : String)
  /-- Files that follow each other. -/
  | files (names : List String)
  deriving DecidableEq, Repr

/-- What the arguments of a level have given so far. -/
structure Reading where
  /-- The switches with their values; the value of a switch that takes none is
  empty. -/
  given : List (Switch × String)
  files : List String
  waiting : Waiting
  deriving DecidableEq, Repr

namespace Reading

/-- Nothing is read. -/
def start : Reading := ⟨[], [], .nothing⟩

/-- The value of a switch that was given. -/
def value? (reading : Reading) (switch : Switch) : Option String :=
  reading.given.lookup switch

/-- The switch was given. -/
def has (reading : Reading) (switch : Switch) : Bool :=
  (reading.value? switch).isSome

/-- Notes that a switch was given, once. -/
def note (reading : Reading) (switch : Switch) (value : String) : Except Usage Reading :=
  if reading.has switch then .error .conflict
  else if !switch.accepts value then .error .invalidValue
  else .ok { reading with given := reading.given ++ [(switch, value)] }

/-- Settles what waits. -/
def settle (reading : Reading) : Except Usage Reading :=
  let rest := { reading with waiting := .nothing }
  match reading.waiting with
  | .nothing => .ok rest
  | .valueOf _ => .error .invalidValue
  | .value switch value => rest.note switch value
  | .files names =>
    if names.contains "" then .error .invalidValue
    else .ok { rest with files := rest.files ++ names }

/-- Takes a switch without a value of its own. -/
def give (reading : Reading) (switch : Switch) : Except Usage Reading := do
  let settled ← reading.settle
  match switch.takes with
  | .stop usage => throw usage
  | .nothing => settled.note switch ""
  | .repetition => return { settled with given := settled.given ++ [(switch, "")] }
  | .value => return { settled with waiting := .valueOf switch }

/-- Takes a switch with a value of its own. -/
def giveWith (reading : Reading) (switch : Switch) (value : String) : Except Usage Reading := do
  match switch.takes with
  | .value => (← reading.settle).note switch value
  | _ => throw .tooManyValues

/-- Takes a long switch, spelled without its dashes. -/
def long (level : Level) (reading : Reading) (spelling : List Char) : Except Usage Reading :=
  let (name, value) :=
    match Text.cut? '=' spelling with
    | some (name, value) => (name, some (String.ofList value))
    | none => (spelling, none)
  match level.long? (String.ofList name), value with
  | none, _ => .error .unknownArgument
  | some switch, none => reading.give switch
  | some switch, some value => reading.giveWith switch value

/-- Takes short switches that share a dash. The rest of the argument behind a
switch that takes a value is that value, with or without an equals sign. -/
def short (level : Level) (reading : Reading) : List Char → Except Usage Reading
  | [] => .ok reading
  | name :: rest =>
    match level.short? name with
    | none => .error .unknownArgument
    | some switch =>
      if switch.takes = .value then
        match rest with
        | [] => reading.give switch
        | '=' :: value => reading.giveWith switch (String.ofList value)
        | value => reading.giveWith switch (String.ofList value)
      else do short level (← reading.give switch) rest

/-- Takes an argument that is no switch. -/
def plain (level : Level) (reading : Reading) (switchesEnded : Bool) (argument : String) :
    Except Usage Reading :=
  if level.takesFiles then
    match reading.waiting with
    | .files names => .ok { reading with waiting := .files (names ++ [argument]) }
    | _ => do return { (← reading.settle) with waiting := .files [argument] }
  else if level.commands.isEmpty || (switchesEnded && level.commands.contains argument) then
    .error .unknownArgument
  else .error .invalidCommand

/-- Takes an argument before the switches have ended. -/
def argument (level : Level) (reading : Reading) (argument : String) : Except Usage Reading :=
  match argument.toList, reading.waiting with
  | '-' :: '-' :: spelling, _ => reading.long level spelling
  | '-' :: first :: rest, _ => reading.short level (first :: rest)
  | _, .valueOf switch => .ok { reading with waiting := .value switch argument }
  | _, _ => reading.plain level false argument

/-- A value is still to come. -/
def awaitsValue (reading : Reading) : Bool :=
  match reading.waiting with
  | .valueOf _ => true
  | _ => false

/-- Takes the arguments up to a command, which is returned with the arguments
behind it. -/
def arguments (level : Level) (switchesEnded : Bool) (reading : Reading) :
    List String → Except Usage (Reading × Option (String × List String))
  | [] => .ok (reading, none)
  | argument :: rest =>
    if switchesEnded then do
      arguments level true (← reading.plain level true argument) rest
    else if !reading.awaitsValue && level.commands.contains argument then
      .ok (reading, some (argument, rest))
    else if argument == "--" then arguments level true reading rest
    else do arguments level false (← reading.argument level argument) rest

end Reading

end NamedConstants.CommandLine
