import NamedConstants.CommandLine.Invocation
import NamedConstants.Proofs.CommandLine.Recorded
import NamedConstants.Proofs.Path

/-!
# Recorded arguments as an invocation

The arguments that a companion records ask for one source, with the two switches that
show in the companion (`ofArguments_recorded`). They name no suffix, and the
configuration file is the one that the environment names, if it names one. The name of
the source must not be spelled as a switch.
-/

set_option autoImplicit false

namespace NamedConstants.CommandLine

namespace Reading

/-- What a level has read when two switches may have been given. -/
def afterSwitches (failfast insensitive : Bool) : Reading where
  given := (if failfast then [(.failfast, "")] else []) ++
    (if insensitive then [(.insensitive, "")] else [])
  files := []
  waiting := .nothing

/-- The switches are read one after the other. -/
theorem arguments_switches (failfast insensitive : Bool) (rest : List String) :
    start.arguments .generate false ((if failfast then ["--failfast"] else []) ++
      (if insensitive then ["--insensitive"] else []) ++ rest) =
      (afterSwitches failfast insensitive).arguments .generate false rest := by
  cases failfast with
  | false =>
      cases insensitive with
      | false => rfl
      | true => rfl
  | true =>
      cases insensitive with
      | false => rfl
      | true => rfl

/-- An argument without a dash in front is a file, if a level takes files. -/
theorem argument_of_file {reading : Reading} (waiting : reading.waiting = .nothing)
    {level : Level} (takesFiles : level.takesFiles = true) {name : String}
    (dashless : name.toList.head? ≠ some '-') :
    reading.argument level name = .ok { reading with waiting := .files [name] } := by
  have taken : reading.plain level false name =
      .ok { reading with waiting := .files [name] } := by
    rw [plain, if_pos takesFiles, waiting, settle, waiting]
    rfl
  unfold argument
  split
  · rename_i spelled
    rw [spelled] at dashless
    exact absurd rfl dashless
  · rename_i spelled
    rw [spelled] at dashless
    exact absurd rfl dashless
  · rename_i awaited _ _
    rw [waiting] at awaited
    cases awaited
  · exact taken

/-- What a level has read when a file follows the switches. -/
def afterFile (failfast insensitive : Bool) (name : String) : Reading :=
  { afterSwitches failfast insensitive with files := [name] }

theorem settle_files {reading : Reading} {name : String} (waiting : reading.waiting = .files [name])
    (filled : name ≠ "") :
    reading.settle = .ok { reading with files := reading.files ++ [name], waiting := .nothing } := by
  have named : [name].contains "" = false := by
    simpa using filled.symm
  rw [settle, waiting]
  dsimp only
  rw [named]
  rfl

end Reading

/-- Unless the arguments name a configuration file, the environment does. -/
theorem configFile?_of_not_given {environment : Environment} {reading : Reading}
    (absent : reading.has .config = false)
    (accepted : environment.lookup configVariable ≠ some "") :
    configFile? environment reading = .ok (environment.lookup configVariable) := by
  unfold configFile?
  rw [absent]
  cases named : environment.lookup configVariable with
  | none => rfl
  | some file =>
      have filled : Switch.config.accepts file = true := by
        rw [Switch.accepts, bne_iff_ne]
        rintro rfl
        exact accepted named
      dsimp only
      rw [if_pos filled]

/-- The arguments behind the name of the command. -/
theorem readLevel_recorded {environment : Environment}
    (accepted : environment.lookup configVariable ≠ some "") (failfast insensitive : Bool)
    {name : String} (filled : name ≠ "") (dashless : name.toList.head? ≠ some '-') :
    readLevel environment .generate ((if failfast then ["--failfast"] else []) ++
      (if insensitive then ["--insensitive"] else []) ++ [name]) =
        .ok (Reading.afterFile failfast insensitive name) := by
  have noEnd : (name == "--") = false := by
    refine beq_false_of_ne ?_
    rintro rfl
    exact dashless rfl
  have read : (Reading.afterSwitches failfast insensitive).arguments .generate false [name] =
      .ok ({ Reading.afterSwitches failfast insensitive with waiting := .files [name] }, none) := by
    rw [Reading.arguments, if_neg Bool.false_ne_true, if_neg (by simp [Level.generate]), noEnd,
      if_neg Bool.false_ne_true, Reading.argument_of_file rfl rfl dashless]
    rfl
  have settled : Reading.settle
      { Reading.afterSwitches failfast insensitive with waiting := .files [name] } =
        .ok (Reading.afterFile failfast insensitive name) :=
    Reading.settle_files rfl filled
  have absent : (Reading.afterFile failfast insensitive name).has .config = false := by
    cases failfast <;> cases insensitive <;> rfl
  simp only [readLevel, Reading.arguments_switches, read, settled,
    configFile?_of_not_given absent accepted, bind, Except.bind]
  rfl

/-- The companion of one source, with the switches that show in it. -/
def recordedOptions (request : Request) : GenerateOptions where
  files := [.ofText request.source]
  failfast := request.failfast
  insensitive := request.insensitive
  suffix := none
  isDryRun := false

/-- The recorded options under the configuration file of the environment. -/
def recordedInvocation (environment : Environment) (request : Request) : Invocation where
  config := (environment.lookup configVariable).map .ofText
  isVerbose := false
  isQuiet := false
  command := some (.generate (recordedOptions request))

/-- **What the recorded arguments ask for.** They ask for the companion of the source
with the switches that show in the companion, and for nothing else. -/
theorem ofArguments_recorded {environment : Environment} {request : Request}
    (accepted : environment.lookup configVariable ≠ some "") (filled : request.source ≠ "")
    (dashless : request.source.toList.head? ≠ some '-') :
    Invocation.ofArguments environment (recordedArguments request) =
      .ok (recordedInvocation environment request) := by
  let rest := (if request.failfast then ["--failfast"] else []) ++
    (if request.insensitive then ["--insensitive"] else []) ++ [request.source]
  have outer : Reading.start.arguments .program false (recordedArguments request) =
      .ok (.start, some ("generate", rest)) :=
    rfl
  have level := readLevel_recorded accepted request.failfast request.insensitive filled dashless
  have inner : readCommand environment (some ("generate", rest)) =
      .ok (some (.afterFile request.failfast request.insensitive request.source,
        .generate (.ofReading
          (.afterFile request.failfast request.insensitive request.source)))) := by
    simp only [readCommand, levelOf?, rest, level, bind, Except.bind]
    rfl
  have settled : Reading.start.settle = .ok .start := rfl
  have fallback : configFile? environment .start = .ok (environment.lookup configVariable) :=
    configFile?_of_not_given rfl accepted
  simp only [Invocation.ofArguments, outer, inner, settled, fallback, bind, Except.bind,
    recordedInvocation, recordedOptions]
  -- What is read is known by now, but for the two switches.
  cases request.failfast <;> cases request.insensitive <;> rfl

end NamedConstants.CommandLine
