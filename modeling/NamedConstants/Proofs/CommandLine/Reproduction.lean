import NamedConstants.CommandLine.Run
import NamedConstants.Proofs.CommandLine.Arguments
import NamedConstants.Proofs.Generation.Beside

/-!
# Running the recorded command line

The command line that a companion records is run in the directory of the source, where
the configuration is the same (`IsBeside`). It writes what the companion holds, but under
the suffix that is configured (`reproduces_of_render`): the switches that show in the
companion are recorded, and the suffix that was given for the run is not. So the file
itself is written again exactly if no other suffix was given (`generate_reproduces`), and
then running the command line changes nothing (`rerun?_of_write`).
-/

set_option autoImplicit false

namespace NamedConstants

/-! ## Settings -/

section Settings

variable {configuration switched : Configuration} {workspace : Workspace}

theorem Configuration.checkSuffix_of_resolve {environment : Environment} {written : Configuration}
    (resolved : written.resolve environment = .ok configuration) :
    checkSuffix configuration.outputSuffix = .ok () := by
  unfold resolve at resolved
  obtain ⟨filenames, -, resolved⟩ := bind_eq_ok_iff.mp resolved
  obtain ⟨suffix, -, resolved⟩ := bind_eq_ok_iff.mp resolved
  obtain ⟨nothing, accepted, same⟩ := bind_eq_ok_iff.mp resolved
  cases same
  exact accepted

/-- The suffix of a configuration that is in use is not refused. -/
theorem Configuration.checkSuffix_of_load {named : Option Path}
    (loaded : Configuration.load workspace named = .ok configuration) :
    checkSuffix configuration.outputSuffix = .ok () := by
  unfold load at loaded
  split at loaded
  · unfold ofFile at loaded
    split at loaded
    · unfold ofText at loaded
      split at loaded
      · exact checkSuffix_of_resolve loaded
      · cases loaded
    · cases loaded
  · cases loaded
    rfl

theorem CommandLine.override_eq_ok_iff {invocation : CommandLine.Invocation}
    {options : CommandLine.GenerateOptions} :
    CommandLine.override configuration invocation options = .ok switched ↔
      (∀ suffix ∈ options.suffix, Configuration.checkSuffix suffix = .ok ()) ∧
        switched = { configuration with
          failfast := configuration.failfast || options.failfast
          insensitive := configuration.insensitive || options.insensitive
          verbose := configuration.verbose || invocation.isVerbose
          outputSuffix := options.suffix.getD configuration.outputSuffix } := by
  unfold override
  cases options.suffix with
  | none => simp [pure, Except.pure, eq_comm]
  | some suffix =>
      cases checked : Configuration.checkSuffix suffix with
      | error failure => simp [checked, bind, Except.bind]
      | ok nothing => simp [checked, bind, Except.bind, pure, Except.pure, eq_comm]

end Settings

namespace CommandLine

open Generation (Writes companionName)

/-! ## Running it -/

/-- Runs the command line that a text records. -/
def rerun? (workspace : Workspace) (text : String) : Option Outcome := do
  match ← words? (← recorded? text) with
  | "enumforge" :: arguments =>
      (Invocation.ofArguments workspace.environment arguments).toOption.map (run workspace)
  | _ => none

/-- The command line that a text records succeeds: it writes the text to a place, and
nothing else. -/
def Reproduces (workspace : Workspace) (place : Location) (text : String) : Prop :=
  ∃ outcome file, rerun? workspace text = some outcome ∧
    outcome.answer = .ok (.report ⟨[file]⟩) ∧
    workspace.locate? file.output = some place ∧
    outcome.workspace =
      { workspace with tree := workspace.tree.write place (Text.bytesOf text) }

/-- The name is a text, which stands for itself in a shell, in a path and among the
arguments. -/
structure IsPlainName (name : FileName) : Prop where
  isText : name.isText = true
  literal : IsLiteralWord name.text
  whole : FileName.slash ∉ name.bytes
  dashless : name.text.toList.head? ≠ some '-'

/-- A workspace seen from the directory of a source, which holds there what it held
before. The same configuration applies, and no directory has the name of the companion. -/
structure IsBeside (configuration : Configuration) (before workspace : Workspace)
    (parent : Location) (name : FileName) : Prop where
  directory : workspace.directory = parent
  source : workspace.textAt? (parent ++ [name]) = before.textAt? (parent ++ [name])
  named : workspace.environment.lookup configVariable ≠ some ""
  loaded : Configuration.load workspace
    ((workspace.environment.lookup configVariable).map .ofText) = .ok configuration
  free : workspace.tree.isDirectory
    (parent ++ [companionName configuration.outputSuffix name]) = false

variable {configuration switched : Configuration} {workspace : Workspace} {name : FileName}

namespace IsBeside

variable {before : Workspace} {parent : Location} {text : String}
variable (beside : IsBeside configuration before workspace parent name)
variable (read : before.textAt? (parent ++ [name]) = some text)

include beside read

theorem isFile : workspace.tree.isFile (parent ++ [name]) = true := by
  rw [← beside.source] at read
  obtain ⟨bytes, stored, -⟩ := Option.bind_eq_some_iff.mp read
  exact Option.isSome_of_eq_some stored

/-- A name leads to what has this name beside the source. -/
theorem locate?_name {other : FileName} (named : Path.isName other = true) :
    workspace.locate? ⟨false, [other]⟩ = some (parent ++ [other]) := by
  have directory := FileTree.isDirectory_of_isFile (beside.isFile read)
  rw [← beside.directory] at directory ⊢
  exact Generation.locate?_name named directory

end IsBeside

/-- The settings with which the recorded command line is run. -/
def resumed (configuration : Configuration) (request : Request) : Configuration :=
  { configuration with
    failfast := configuration.failfast || request.failfast
    insensitive := configuration.insensitive || request.insensitive
    verbose := configuration.verbose || false }

/-- What was given for a run shows in the companion, so it is recorded. -/
theorem writesAlike_resumed {invocation : Invocation} {options : GenerateOptions}
    (overridden : override configuration invocation options = .ok switched) (name : String)
    (declarations : List Declaration) :
    switched.WritesAlike
      (resumed configuration (Generation.request switched name declarations)) := by
  obtain ⟨-, rfl⟩ := override_eq_ok_iff.mp overridden
  exact ⟨by simp [resumed, Generation.request], by simp [resumed, Generation.request], rfl⟩

/-- **The recorded command line is run.** It generates the companion of the source that
it names. -/
theorem rerun?_write {request : Request} (plain : IsPlainName name)
    (source : request.source = name.text) (version : '\n' ∉ request.version.toList)
    (named : workspace.environment.lookup configVariable ≠ some "")
    (loaded : Configuration.load workspace
      ((workspace.environment.lookup configVariable).map .ofText) = .ok configuration) :
    rerun? workspace (Companion.write request) =
      some (produce (resumed configuration request) workspace [⟨false, [name]⟩]) := by
  have path : Path.ofText request.source = ⟨false, [name]⟩ := by
    rw [source, Path.ofText_of_not_mem (mt FileName.slash_mem_text_iff.mp plain.whole),
      FileName.isText_iff.mp plain.isText]
  have literal : IsLiteralWord request.source := source ▸ plain.literal
  have dashless : request.source.toList.head? ≠ some '-' := source ▸ plain.dashless
  have asked := ofArguments_recorded named literal.1 dashless
  have settings : generateSettings workspace (recordedInvocation workspace.environment request)
      (recordedOptions request) =
        .ok (resumed configuration request, [⟨false, [name]⟩]) := by
    rw [← path, generateSettings, recordedInvocation, loaded]
    rfl
  have ran : run workspace (recordedInvocation workspace.environment request) =
      generate workspace (recordedInvocation workspace.environment request)
        (recordedOptions request) :=
    rfl
  simp only [rerun?, recorded?_write literal version, words?_commandLine literal, asked, bind,
    Option.bind_some]
  rw [Except.toOption, Option.map_some, ran, generate, settings]
  rfl

/-- **What the recorded command line writes.** Run beside the source of a companion, it
writes what the companion holds, under the suffix that is configured. -/
theorem reproduces_of_render {invocation : Invocation} {options : GenerateOptions}
    {before : Workspace} {source : Path} {companion : Rendered} {parent : Location}
    (overridden : override configuration invocation options = .ok switched)
    (rendered : Generation.render switched before source = .ok companion)
    (called : source.fileName? = some name)
    (located : before.locate? source = some (parent ++ [name])) (plain : IsPlainName name)
    (beside : IsBeside configuration before workspace parent name) :
    Reproduces workspace (parent ++ [companionName configuration.outputSuffix name])
      companion.text := by
  have named := Path.isName_of_fileName? called
  obtain ⟨output, content, declarations, -, read, -, same⟩ :=
    Generation.render_eq_ok_iff.mp rendered
  have text : companion.text =
      Companion.write (Generation.request switched name.text declarations) := by
    rw [same, called, Option.map_some, Option.getD_some]
  have there : before.textAt? (parent ++ [name]) = some content := by
    rwa [Workspace.text?, located] at read
  have unchanged : workspace.text? ⟨false, [name]⟩ = before.text? source := by
    rw [Workspace.text?, beside.locate?_name there named, Option.bind_some, beside.source, there,
      read]
  have place := beside.locate?_name there (Generation.isName_of_isCompanionName
    (Generation.isCompanionName_companionName configuration.outputSuffix name))
  have accepted : Configuration.checkSuffix configuration.outputSuffix = .ok () :=
    Configuration.checkSuffix_of_load beside.loaded
  have rendered' := Generation.render_name (writesAlike_resumed overridden name.text declarations)
    accepted rendered called named plain.whole (not_mem_of_isLiteralWord plain.literal rfl)
    unchanged
  have generated := Generation.generate_of_render (beside.locate?_name there named)
    (beside.isFile there) rendered' place beside.free
  have version : '\n' ∉ Generation.version.toList := by decide
  have ran :
      rerun? workspace (Companion.write (Generation.request switched name.text declarations)) =
        some (produce (resumed configuration (Generation.request switched name.text declarations))
          workspace [⟨false, [name]⟩]) :=
    rerun?_write plain rfl version beside.named beside.loaded
  rw [← text, produce, generated] at ran
  exact ⟨_, _, ran, rfl, place, rfl⟩

/-- What a companion leaves when it is written, seen from the directory of the source.
The companion must not take the place of the source. -/
theorem IsBeside.of_write {before after : Workspace} {companion : Rendered} {parent : Location}
    (output : before.locate? companion.output =
      some (parent ++ [companionName configuration.outputSuffix name]))
    (written : before.write companion.output companion.text = .ok after)
    (apart : companionName configuration.outputSuffix name ≠ name)
    (named : after.environment.lookup configVariable ≠ some "")
    (loaded : Configuration.load { after with directory := parent }
      ((after.environment.lookup configVariable).map .ofText) = .ok configuration) :
    IsBeside configuration before { after with directory := parent } parent name := by
  have places := Workspace.samePlaces_of_write written
  obtain ⟨location, located, free, rfl⟩ := Workspace.write_eq_ok_iff.mp written
  cases output.symm.trans located
  refine ⟨rfl, ?_, named, loaded, (places.isDirectory _).trans free⟩
  have elsewhere : parent ++ [name] ≠ parent ++ [companionName configuration.outputSuffix name] :=
    fun same => apart (List.singleton_inj.mp (List.append_cancel_left same)).symm
  rw [Workspace.textAt?, Workspace.textAt?, FileTree.content?_write, if_neg elsewhere]

/-- **A companion that lies where the configured suffix says is reproduced in place.**
Once it is written, running its command line in the directory of the source changes
nothing. -/
theorem rerun?_of_write {invocation : Invocation} {options : GenerateOptions}
    {before after : Workspace} {source : Path} {companion : Rendered} {parent : Location}
    (overridden : override configuration invocation options = .ok switched)
    (rendered : Generation.render switched before source = .ok companion)
    (written : before.write companion.output companion.text = .ok after)
    (kept : switched.outputSuffix = configuration.outputSuffix)
    (called : source.fileName? = some name)
    (located : before.locate? source = some (parent ++ [name])) (plain : IsPlainName name)
    (apart : companionName configuration.outputSuffix name ≠ name)
    (named : after.environment.lookup configVariable ≠ some "")
    (loaded : Configuration.load { after with directory := parent }
      ((after.environment.lookup configVariable).map .ofText) = .ok configuration) :
    ∃ outcome file, rerun? { after with directory := parent } companion.text = some outcome ∧
      outcome.answer = .ok (.report ⟨[file]⟩) ∧
      outcome.workspace = { after with directory := parent } := by
  have accepted := Configuration.checkSuffix_of_load loaded
  rw [← kept] at accepted
  have output := Generation.locate?_output (Generation.slash_not_mem_of_checkSuffix accepted)
    rendered called located plain.whole
  rw [kept] at output
  have beside := IsBeside.of_write output written apart named loaded
  obtain ⟨outcome, file, ran, reported, -, left⟩ :=
    reproduces_of_render overridden rendered called located plain beside
  refine ⟨outcome, file, ran, reported, left.trans ?_⟩
  obtain ⟨location, located', -, rfl⟩ := Workspace.write_eq_ok_iff.mp written
  cases output.symm.trans located'
  rw [FileTree.write_write_self]

/-! ## A whole run -/

section Run

variable {invocation : Invocation} {options : GenerateOptions} {report : Report}

/-- The suffix in use is not refused either. -/
theorem checkSuffix_of_override
    (loaded : Configuration.load workspace invocation.config = .ok configuration)
    (overridden : override configuration invocation options = .ok switched) :
    Configuration.checkSuffix switched.outputSuffix = .ok () := by
  have configured := Configuration.checkSuffix_of_load loaded
  obtain ⟨accepted, rfl⟩ := override_eq_ok_iff.mp overridden
  cases given : options.suffix with
  | none => exact configured
  | some suffix => exact accepted suffix given

/-- A companion keeps its name exactly if no other suffix was given for the run. -/
theorem companionName_eq_iff (overridden : override configuration invocation options = .ok switched)
    (name : FileName) :
    companionName switched.outputSuffix name = companionName configuration.outputSuffix name ↔
      ∀ suffix ∈ options.suffix, suffix = configuration.outputSuffix := by
  obtain ⟨-, rfl⟩ := override_eq_ok_iff.mp overridden
  cases options.suffix with
  | none => simp
  | some suffix => simp [companionName, Generation.companionText, FileName.ofText_inj]

theorem generateSettings_eq_ok_iff {sources : List Path} :
    generateSettings workspace invocation options = .ok (switched, sources) ↔
      ∃ configuration, Configuration.load workspace invocation.config = .ok configuration ∧
        override configuration invocation options = .ok switched ∧
        inputs switched options.files = .ok sources := by
  simp only [generateSettings, bind_eq_ok_iff, pure, Except.pure, Except.ok.injEq, Prod.mk.injEq]
  constructor
  · rintro ⟨configuration, loaded, settings, overridden, found, given, rfl, rfl⟩
    exact ⟨configuration, loaded, overridden, given⟩
  · rintro ⟨configuration, loaded, overridden, given⟩
    exact ⟨configuration, loaded, switched, overridden, sources, given, rfl, rfl⟩

theorem answer_preview_ne_report (configuration : Configuration) (workspace : Workspace)
    (sources : List Path) (report : Report) :
    (preview configuration workspace sources).answer ≠ .ok (.report report) := by
  unfold preview
  cases Generation.sources configuration workspace sources with
  | error failure => rintro ⟨⟩
  | ok found =>
      dsimp only
      cases (previewEach configuration workspace found).1 with
      | error failure => rintro ⟨⟩
      | ok nothing => rintro ⟨⟩

/-- What a run reports is what it generates. -/
theorem exists_of_generate
    (reported : (generate workspace invocation options).answer = .ok (.report report)) :
    ∃ switched sources, generateSettings workspace invocation options = .ok (switched, sources) ∧
      Generation.generate switched workspace sources =
        (.ok report, (generate workspace invocation options).workspace) := by
  unfold generate at reported ⊢
  cases settled : generateSettings workspace invocation options with
  | error failure =>
      rw [settled] at reported
      cases reported
  | ok settings =>
      obtain ⟨switched, sources⟩ := settings
      rw [settled] at reported
      refine ⟨switched, sources, rfl, ?_⟩
      dsimp only at reported ⊢
      split at reported
      · exact absurd reported (answer_preview_ne_report switched workspace sources report)
      · rename_i wet
        rw [if_neg wet]
        unfold produce at reported ⊢
        cases generated : Generation.generate switched workspace sources with
        | mk result after =>
            rw [generated] at reported
            cases result with
            | error failure => cases reported
            | ok own =>
                cases reported
                rfl

/-- **What the recorded command lines of a run reproduce.** Every companion of the run is
rendered at the turn of its source, and lies beside the source. In a workspace where the
source holds what it held then, the command line of the companion is run in the directory
of the source, with the same configuration: it writes the text of the companion there,
under the suffix that is configured, and nothing else. This is where the companion lies
exactly if no other suffix was given for the run. -/
theorem generate_reproduces
    (reported : (generate workspace invocation options).answer = .ok (.report report)) :
    ∃ configuration switched found companions,
      Configuration.load workspace invocation.config = .ok configuration ∧
      override configuration invocation options = .ok switched ∧
      Writes switched workspace found companions
        (generate workspace invocation options).workspace ∧
      report = ⟨companions.map Rendered.written⟩ ∧
      ∀ companion ∈ companions, ∃ turn parent name,
        Generation.IsTurn switched workspace found companion.source turn ∧
        turn.locate? companion.source = some (parent ++ [name]) ∧
        (IsPlainName name →
          turn.locate? companion.output =
            some (parent ++ [companionName switched.outputSuffix name]) ∧
          ∀ again, IsBeside configuration turn again parent name →
            Reproduces again (parent ++ [companionName configuration.outputSuffix name])
              companion.text) ∧
        (companionName switched.outputSuffix name =
            companionName configuration.outputSuffix name ↔
          ∀ suffix ∈ options.suffix, suffix = configuration.outputSuffix) := by
  obtain ⟨switched, sources, settled, generated⟩ := exists_of_generate reported
  obtain ⟨configuration, loaded, overridden, -⟩ := generateSettings_eq_ok_iff.mp settled
  obtain ⟨found, companions, -, writes, rfl⟩ := Generation.generate_eq_ok_iff.mp generated
  refine ⟨configuration, switched, found, companions, loaded, overridden, writes, rfl,
    fun companion listed => ?_⟩
  obtain ⟨turn, turns, rendered⟩ := writes.exists_turn listed
  obtain ⟨parent, name, called, located⟩ := Generation.exists_parent_of_render rendered
  have plain := Generation.slash_not_mem_of_checkSuffix (checkSuffix_of_override loaded overridden)
  exact ⟨turn, parent, name, turns, located,
    fun named => ⟨Generation.locate?_output plain rendered called located named.whole,
      fun again beside => reproduces_of_render overridden rendered called located named beside⟩,
    companionName_eq_iff overridden name⟩

end Run

/-! ## A source with one family -/

section OneSource

open Generation (oneSource locate?_oneSource split?_oneSource)

/-- Companions are asked for one source. -/
def oneInvocation (options : GenerateOptions) : Invocation :=
  ⟨none, false, false, some (.generate options)⟩

/-- The source alone, with a suffix if there is one. -/
def oneOptions (failfast : Bool) (suffix : Option String) : GenerateOptions :=
  ⟨[.ofText "src/a.rs"], failfast, false, suffix, false⟩

/-- The workspace from the directory of the source. -/
def besideOneSource : Workspace := { oneSource with directory := ["src"] }

theorem isBeside_oneSource :
    IsBeside .default oneSource besideOneSource ["src"] "a.rs" :=
  ⟨rfl, rfl, by decide, rfl, by decide +kernel⟩

theorem isPlainName_oneSource : IsPlainName "a.rs" where
  isText := FileName.isText_ofText "a.rs"
  literal := by
    rw [FileName.text_ofText]
    exact ⟨by decide, by decide +kernel⟩
  whole := by decide
  dashless := by
    rw [FileName.text_ofText]
    decide

theorem load_oneSource : Configuration.load oneSource none = .ok .default := rfl

theorem fileName?_oneSource : Path.fileName? (.ofText "src/a.rs") = some "a.rs" :=
  congrArg (Option.map Prod.snd) split?_oneSource

/-- The companion of the source is rendered with any switch and suffix. -/
theorem exists_render_of_override {options : GenerateOptions}
    (overridden : override .default (oneInvocation options) options = .ok switched) :
    ∃ companion, Generation.render switched oneSource (.ofText "src/a.rs") = .ok companion := by
  have types : switched.types = Configuration.default.types := by
    obtain ⟨-, rfl⟩ := override_eq_ok_iff.mp overridden
    rfl
  exact Generation.exists_render_of_accepted
    (checkSuffix_of_override load_oneSource overridden) types

/-- It is written beside the source. -/
theorem exists_generate_of_override {failfast : Bool} {suffix : Option String}
    (overridden : override .default (oneInvocation (oneOptions failfast suffix))
      (oneOptions failfast suffix) = .ok switched)
    (free : oneSource.tree.isDirectory
      ([FileName.ofText "src"] ++ [companionName switched.outputSuffix "a.rs"]) = false) :
    ∃ companion, Generation.render switched oneSource (.ofText "src/a.rs") = .ok companion ∧
      oneSource.locate? companion.output =
        some ([FileName.ofText "src"] ++ [companionName switched.outputSuffix "a.rs"]) ∧
      (generate oneSource (oneInvocation (oneOptions failfast suffix))
        (oneOptions failfast suffix)).answer = .ok (.report ⟨[companion.written]⟩) := by
  obtain ⟨companion, rendered⟩ := exists_render_of_override overridden
  have plain := Generation.slash_not_mem_of_checkSuffix
    (checkSuffix_of_override load_oneSource overridden)
  have output := Generation.locate?_output plain rendered fileName?_oneSource locate?_oneSource
    (by decide)
  have generated :=
    Generation.generate_of_render locate?_oneSource (by decide +kernel) rendered output free
  have settled := generateSettings_eq_ok_iff.mpr ⟨_, load_oneSource, overridden, rfl⟩
  refine ⟨companion, rendered, output, ?_⟩
  rw [generate, settled]
  change (produce switched oneSource [.ofText "src/a.rs"]).answer = _
  rw [produce, generated]

/-- Where the companion lies under the suffix that is configured by default. -/
theorem place_oneSource :
    [FileName.ofText "src"] ++ [companionName Configuration.default.outputSuffix "a.rs"] =
      (["src", "a_enums.rs"] : Location) := by
  decide +kernel

/-- Without a suffix the companion is reproduced where it lies. -/
theorem reproduces_oneSource :
    ∃ companion : Rendered, (generate oneSource (oneInvocation (oneOptions true none))
        (oneOptions true none)).answer = .ok (.report ⟨[companion.written]⟩) ∧
      oneSource.locate? companion.output = some (["src", "a_enums.rs"] : Location) ∧
      Reproduces besideOneSource ["src", "a_enums.rs"] companion.text := by
  have overridden : override .default (oneInvocation (oneOptions true none))
      (oneOptions true none) = .ok { Configuration.default with failfast := true } :=
    rfl
  obtain ⟨first, rendered, -, reported⟩ :=
    exists_generate_of_override overridden (by decide +kernel)
  obtain ⟨configuration, switched, found, companions, loaded, overridden', writes, same, all⟩ :=
    generate_reproduces reported
  cases load_oneSource.symm.trans loaded
  cases overridden.symm.trans overridden'
  obtain ⟨companion, rfl, own⟩ := List.map_eq_singleton_iff.mp (Report.mk.inj same).symm
  obtain ⟨turn, parent, name, turns, located, again, -⟩ := all companion List.mem_cons_self
  have start : turn = oneSource := by
    cases writes with
    | next _ _ others =>
        cases others
        exact turns.eq_of_singleton
  subst start
  have source : companion.source = .ofText "src/a.rs" :=
    (congrArg WrittenFile.source own).trans (Generation.source_and_output_of_render rendered).1
  rw [source, locate?_oneSource] at located
  obtain ⟨rfl, names⟩ := List.append_inj' (Option.some.inj located) rfl
  cases names
  obtain ⟨output, reproduced⟩ := again isPlainName_oneSource
  have reproduced := reproduced besideOneSource isBeside_oneSource
  rw [place_oneSource] at reproduced
  refine ⟨companion, ?_, output.trans (congrArg some place_oneSource), reproduced⟩
  rw [own]
  exact reported

/-- With another suffix the companion is written again under the configured one, and
nothing is written where it lies. -/
theorem rerun?_of_otherSuffix :
    ∃ (companion : Rendered) (outcome : Outcome),
      (generate oneSource (oneInvocation (oneOptions false (some "_gen")))
        (oneOptions false (some "_gen"))).answer = .ok (.report ⟨[companion.written]⟩) ∧
      oneSource.locate? companion.output = some (["src", "a_gen.rs"] : Location) ∧
      IsBeside .default oneSource besideOneSource ["src"] "a.rs" ∧
      rerun? besideOneSource companion.text = some outcome ∧
      outcome.workspace.tree.content? ["src", "a_gen.rs"] = none ∧
      outcome.workspace.tree.content? ["src", "a_enums.rs"] =
        some (Text.bytesOf companion.text) := by
  have overridden : override .default (oneInvocation (oneOptions false (some "_gen")))
      (oneOptions false (some "_gen")) = .ok { Configuration.default with outputSuffix := "_gen" } :=
    rfl
  obtain ⟨companion, rendered, output, reported⟩ :=
    exists_generate_of_override overridden (by decide +kernel)
  obtain ⟨outcome, file, ran, -, -, left⟩ := reproduces_of_render overridden rendered
    fileName?_oneSource locate?_oneSource isPlainName_oneSource isBeside_oneSource
  have place : [FileName.ofText "src"] ++ [companionName "_gen" "a.rs"] =
      (["src", "a_gen.rs"] : Location) := by
    decide +kernel
  rw [place_oneSource] at left
  refine ⟨companion, outcome, reported, output.trans (congrArg some place), isBeside_oneSource,
    ran, ?_, ?_⟩
  · rw [left, FileTree.content?_write, if_neg (by decide)]
    rfl
  · rw [left, FileTree.content?_write, if_pos rfl]

end OneSource

end CommandLine

end NamedConstants
