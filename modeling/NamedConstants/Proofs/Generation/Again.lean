import NamedConstants.Proofs.Declaration.Scan
import NamedConstants.Proofs.Generation.Run

/-!
# Running again

A run over directories never takes a companion for a source and never changes
what a source holds, so each companion can as well be rendered before anything
is written (`writes_iff`). What is written in the end is what a second run writes
again: it finds the same sources, renders the same companions and leaves the
workspace as it is (`generate_again`).

Two sources in one directory have one output path exactly if their names are shown
alike, and then the later companion replaces the earlier one. Names that are texts
are not (`eq_of_text_eq`), but a name that is none may be shown as another one is
(`outputPath_of_shownAlike`).
-/

set_option autoImplicit false

namespace NamedConstants

/-- No name of a file holds a slash, as a name never does in a file system. -/
def FileTree.HasPlainNames (tree : FileTree) : Prop :=
  ∀ location ∈ tree.files.map Prod.fst, ∀ name ∈ location, FileName.slash ∉ name.bytes

namespace Generation

/-- The path ends in the name of a source. -/
def EndsInSource (suffix : String) (source : Path) : Prop :=
  ∃ name, source.pieces.getLast? = some name ∧ isSourceName suffix name = true

variable {configuration : Configuration} {workspace last base : Workspace}
variable {sources : List Path} {companions : List Rendered}

/-! ## Companions do not depend on companions -/

/-- The companion of a source is rendered as before. -/
theorem render_eq_of_undisturbed {source : Path}
    (same : Undisturbed configuration.outputSuffix base workspace)
    (ends : EndsInSource configuration.outputSuffix source) :
    render configuration workspace source = render configuration base source := by
  obtain ⟨name, ends, named⟩ := ends
  exact render_congr (text?_eq_of_undisturbed same ends named)

/-- Writing what is rendered disturbs no sources. -/
theorem undisturbed_of_render {source : Path} {companion : Rendered}
    (plain : '/' ∉ configuration.outputSuffix.toList)
    (rendered : render configuration base source = .ok companion)
    (written : workspace.write companion.output companion.text = .ok last) :
    Undisturbed configuration.outputSuffix workspace last := by
  obtain ⟨-, placed⟩ := source_and_output_of_render rendered
  obtain ⟨name, ends, companion⟩ := exists_companion_of_outputPath plain placed
  exact undisturbed_of_write ends companion written

theorem Writes.undisturbed (plain : '/' ∉ configuration.outputSuffix.toList)
    (writes : Writes configuration workspace sources companions last) :
    Undisturbed configuration.outputSuffix workspace last := by
  induction writes with
  | done workspace => exact .refl workspace
  | next rendered written others ih => exact (undisturbed_of_render plain rendered written).trans ih

/-- **All companions may be rendered at the start.** It makes no difference
whether a companion is rendered at its turn or before the first one is written. -/
theorem writes_iff (plain : '/' ∉ configuration.outputSuffix.toList)
    (named : ∀ source ∈ sources, EndsInSource configuration.outputSuffix source)
    (same : Undisturbed configuration.outputSuffix base workspace) :
    Writes configuration workspace sources companions last ↔
      sources.map (render configuration base) = companions.map .ok ∧
        workspace.writeAll (companions.map Rendered.file) = .ok last := by
  induction sources generalizing workspace companions with
  | nil =>
      constructor
      · rintro ⟨⟩
        exact ⟨rfl, rfl⟩
      · rintro ⟨renders, written⟩
        cases List.map_eq_nil_iff.mp renders.symm
        cases written
        exact .done last
  | cons source sources ih =>
      obtain ⟨first, others⟩ := List.forall_mem_cons.mp named
      have here := render_eq_of_undisturbed same first
      constructor
      · rintro (_ | ⟨rendered, written, rest⟩)
        have step := same.trans (undisturbed_of_render plain rendered written)
        obtain ⟨renders, writtens⟩ := (ih others step).mp rest
        refine ⟨?_, Workspace.writeAll_cons_eq_ok_iff.mpr ⟨_, written, writtens⟩⟩
        rw [List.map_cons, List.map_cons, renders, ← here, rendered]
      · rintro ⟨renders, writtens⟩
        cases companions with
        | nil => cases renders
        | cons companion companions =>
            obtain ⟨rendered, renders⟩ := List.cons.inj renders
            obtain ⟨next, written, writtens⟩ := Workspace.writeAll_cons_eq_ok_iff.mp writtens
            have step := same.trans (undisturbed_of_render plain rendered written)
            exact .next (here.trans rendered) written ((ih others step).mpr ⟨renders, writtens⟩)

/-- What was written is written again in the same workspace. -/
theorem Writes.again (plain : '/' ∉ configuration.outputSuffix.toList)
    (named : ∀ source ∈ sources, EndsInSource configuration.outputSuffix source)
    (writes : Writes configuration workspace sources companions last) :
    Writes configuration last sources companions last := by
  obtain ⟨renders, written⟩ := (writes_iff plain named (.refl workspace)).mp writes
  exact (writes_iff plain named (writes.undisturbed plain)).mpr
    ⟨renders, Workspace.writeAll_again written⟩

/-! ## Runs that succeed -/

/-- A run succeeds exactly if the companions of all sources are written. -/
theorem generateEach_eq_ok_iff {files : List WrittenFile} :
    generateEach configuration workspace sources = (.ok files, last) ↔
      ∃ companions, Writes configuration workspace sources companions last ∧
        files = companions.map Rendered.written := by
  constructor
  · intro generated
    obtain ⟨companions, writes, ends⟩ := generateEach_spec configuration workspace sources
    rw [generated] at writes ends
    rcases ends with ⟨whole, result⟩ | ⟨source, failure, -, -, result⟩
    · rw [whole, List.take_length] at writes
      exact ⟨companions, writes, Except.ok.inj result⟩
    · cases result
  · rintro ⟨companions, writes, rfl⟩
    induction writes with
    | done workspace => rfl
    | next rendered written others ih =>
        have generated := generateFile_eq_ok_iff.mpr ⟨_, rendered, written, rfl⟩
        rw [generateEach, generated]
        dsimp only
        rw [ih]
        rfl

theorem generate_eq_ok_iff {inputs : List Path} {report : Report} :
    generate configuration workspace inputs = (.ok report, last) ↔
      ∃ found companions, Generation.sources configuration workspace inputs = .ok found ∧
        Writes configuration workspace found companions last ∧
        report = ⟨companions.map Rendered.written⟩ := by
  constructor
  · intro generated
    cases collected : Generation.sources configuration workspace inputs with
    | error failure =>
        rw [generate_of_error collected] at generated
        cases generated
    | ok found =>
        rw [generate_of_ok collected] at generated
        obtain ⟨result, rfl⟩ := Prod.mk.inj generated
        cases outcome : (generateEach configuration workspace found).1 with
        | error failure =>
            rw [outcome] at result
            cases result
        | ok files =>
            rw [outcome] at result
            obtain ⟨companions, writes, rfl⟩ := generateEach_eq_ok_iff.mp (Prod.ext outcome rfl)
            exact ⟨found, companions, rfl, writes, (Except.ok.inj result).symm⟩
  · rintro ⟨found, companions, collected, writes, rfl⟩
    rw [generate_of_ok collected, generateEach_eq_ok_iff.mpr ⟨companions, writes, rfl⟩]
    rfl

/-- An input that is a file is the only source. -/
theorem sources_of_isFile {source : Path} {location : Location}
    (located : workspace.locate? source = some location)
    (file : workspace.tree.isFile location = true) :
    Generation.sources configuration workspace [source] = .ok [source] := by
  have own : sourcesOf configuration workspace source = .ok [source] := by
    rw [sourcesOf, located]
    dsimp only
    rw [if_pos file]
  exact sources_cons_eq_ok_iff.mpr ⟨[source], [], own, rfl, rfl⟩

/-- A run over one source writes its companion. -/
theorem generate_of_render {source : Path} {location place : Location} {companion : Rendered}
    (located : workspace.locate? source = some location)
    (file : workspace.tree.isFile location = true)
    (rendered : render configuration workspace source = .ok companion)
    (output : workspace.locate? companion.output = some place)
    (free : workspace.tree.isDirectory place = false) :
    generate configuration workspace [source] = (.ok ⟨[companion.written]⟩,
      { workspace with tree := workspace.tree.write place (Text.bytesOf companion.text) }) :=
  generate_eq_ok_iff.mpr ⟨[source], [companion], sources_of_isFile located file,
    .next rendered (Workspace.write_of_locate? output free companion.text) (.done _), rfl⟩

/-! ## Sources and companions keep apart -/

section Apart

variable {source other output output' : Path} {location : Location}

/-- An output path is no path of a source. -/
theorem not_endsInSource_of_outputPath (plain : '/' ∉ configuration.outputSuffix.toList)
    (placed : outputPath configuration source = .ok output) :
    ¬EndsInSource configuration.outputSuffix output := by
  rintro ⟨name, ends, named⟩
  obtain ⟨last, ends', companion⟩ := exists_companion_of_outputPath plain placed
  rw [ends] at ends'
  cases ends'
  rw [not_isCompanionName_of_isSourceName named] at companion
  cases companion

/-- An output leads nowhere where a source is. -/
theorem locate?_ne_of_outputPath (plain : '/' ∉ configuration.outputSuffix.toList)
    (ends : EndsInSource configuration.outputSuffix other)
    (placed : outputPath configuration source = .ok output)
    (located : workspace.locate? other = some location) :
    workspace.locate? output ≠ some location := by
  obtain ⟨name, ends, named⟩ := ends
  obtain ⟨last, ends', companion⟩ := exists_companion_of_outputPath plain placed
  intro located'
  obtain ⟨parent, rfl⟩ :=
    Workspace.exists_of_locate?_of_isName ends (isName_of_isSourceName named) located
  obtain ⟨parent', same⟩ := Workspace.exists_of_locate?_of_isName ends'
    (isName_of_isCompanionName companion) located'
  cases (List.append_inj' same rfl).2
  rw [not_isCompanionName_of_isSourceName named] at companion
  cases companion

variable {name name' : FileName} (plain : '/' ∉ configuration.outputSuffix.toList)
  (ends : source.pieces.getLast? = some name)
  (named : isSourceName configuration.outputSuffix name = true)
  (whole : FileName.slash ∉ name.bytes)
  (ends' : other.pieces.getLast? = some name')
  (named' : isSourceName configuration.outputSuffix name' = true)
  (whole' : FileName.slash ∉ name'.bytes)

include plain ends named whole ends' named' whole'

/-- Sources in one directory have one output path exactly if they are shown alike. -/
theorem outputPath_eq_iff {directory : Path} {own own' : FileName}
    (split : source.split? = some (directory, own))
    (split' : other.split? = some (directory, own'))
    (placed : outputPath configuration source = .ok output)
    (placed' : outputPath configuration other = .ok output') :
    output = output' ↔ own.text = own'.text := by
  rw [Path.split?_of_isName ends (isName_of_isSourceName named)] at split
  rw [Path.split?_of_isName ends' (isName_of_isSourceName named')] at split'
  obtain ⟨above, rfl⟩ := Prod.mk.inj (Option.some.inj split)
  obtain ⟨above', rfl⟩ := Prod.mk.inj (Option.some.inj split')
  obtain ⟨_, _, found, rfl⟩ := exists_of_outputPath placed
  obtain ⟨_, _, found', rfl⟩ := exists_of_outputPath placed'
  rw [Path.split?_of_isName ends (isName_of_isSourceName named), above] at found
  rw [Path.split?_of_isName ends' (isName_of_isSourceName named'), above'] at found'
  cases found
  cases found'
  rw [ofText_companionText plain whole, ofText_companionText plain whole',
    ← companionName_eq_companionName_iff named named']
  constructor
  · intro same
    have last : (directory.join
        ⟨false, [companionName configuration.outputSuffix name]⟩).pieces.getLast? =
          some (companionName configuration.outputSuffix name) :=
      Path.getLast?_join directory rfl
    rw [same, Path.getLast?_join directory rfl] at last
    exact (Option.some.inj last).symm
  · intro same
    rw [same]

/-- Sources whose outputs lead to one place lie in one directory and are shown alike. -/
theorem exists_parent_of_outputPath (placed : outputPath configuration source = .ok output)
    (placed' : outputPath configuration other = .ok output')
    (located : workspace.locate? output = some location)
    (located' : workspace.locate? output' = some location) :
    ∃ parent : Location, workspace.locate? source = some (parent ++ [name]) ∧
      workspace.locate? other = some (parent ++ [name']) ∧ name.text = name'.text := by
  obtain ⟨parent, rfl, leads⟩ := locate?_of_outputPath plain ends named whole placed located
  obtain ⟨parent', same, leads'⟩ :=
    locate?_of_outputPath plain ends' named' whole' placed' located'
  obtain ⟨rfl, names⟩ := List.append_inj' same rfl
  exact ⟨parent, leads, leads',
    (companionName_eq_companionName_iff named named').mp (List.singleton_inj.mp names)⟩

end Apart

/-- **A second run over directories changes nothing.** No output path of a source
is a source, neither as a path nor by where it leads. Two sources in one directory
have one output path exactly if their names are shown alike, so they have different
ones if the names are different texts; and sources whose outputs lead to one file
have such names in one directory, so they are one file if the names are texts. When
a run succeeds, a second run finds the same sources in the same order, returns the
same report and leaves the workspace as it is. -/
theorem generate_again {inputs found : List Path}
    (accepted : Configuration.checkSuffix configuration.outputSuffix = .ok ())
    (noFiles : ∀ input ∈ inputs, workspace.isFile input = false)
    (collected : Generation.sources configuration workspace inputs = .ok found) :
    (∀ source ∈ found, ∀ output, outputPath configuration source = .ok output →
      output ∉ found ∧ ∀ other ∈ found, ∀ location,
        workspace.locate? other = some location → workspace.locate? output ≠ some location) ∧
    (workspace.tree.HasPlainNames → ∀ source ∈ found, ∀ other ∈ found, ∀ output output',
      outputPath configuration source = .ok output →
      outputPath configuration other = .ok output' →
      (∀ directory name name', source.split? = some (directory, name) →
        other.split? = some (directory, name') →
        (output = output' ↔ name.text = name'.text) ∧
          (name.isText = true → name'.isText = true → name ≠ name' → output ≠ output')) ∧
      ∀ location, workspace.locate? output = some location →
        workspace.locate? output' = some location →
        ∃ (parent : Location) (name name' : FileName),
          workspace.locate? source = some (parent ++ [name]) ∧
          workspace.locate? other = some (parent ++ [name']) ∧ name.text = name'.text ∧
          (name.isText = true → name'.isText = true →
            workspace.locate? other = workspace.locate? source)) ∧
    ∀ report after, generate configuration workspace inputs = (.ok report, after) →
      Generation.sources configuration after inputs = .ok found ∧
        generate configuration after inputs = (.ok report, after) := by
  have plain := slash_not_mem_of_checkSuffix accepted
  have named (source : Path) (listed : source ∈ found) :=
    exists_name_of_mem_sources noFiles collected listed
  have ends (source : Path) (listed : source ∈ found) :
      EndsInSource configuration.outputSuffix source := by
    obtain ⟨name, ends, own, -⟩ := named source listed
    exact ⟨name, ends, own⟩
  refine ⟨fun source _ output placed => ⟨fun listed => ?_, fun other listed location => ?_⟩,
    fun plainNames source listed other listed' output output' placed placed' => ?_,
    fun report after generated => ?_⟩
  · exact not_endsInSource_of_outputPath plain placed (ends output listed)
  · exact locate?_ne_of_outputPath plain (ends other listed) placed
  · obtain ⟨name, ends, own, location, held, inside⟩ := named source listed
    obtain ⟨name', ends', own', location', held', inside'⟩ := named other listed'
    have whole := plainNames location held name inside
    have whole' := plainNames location' held' name' inside'
    refine ⟨fun directory first second split split' => ?_, fun place located located' => ?_⟩
    · have shown := outputPath_eq_iff plain ends own whole ends' own' whole' split split' placed
        placed'
      exact ⟨shown, fun isText isText' apart same =>
        apart (FileName.eq_of_text_eq isText isText' (shown.mp same))⟩
    · obtain ⟨parent, leads, leads', shown⟩ := exists_parent_of_outputPath plain ends own whole
        ends' own' whole' placed placed' located located'
      refine ⟨parent, name, name', leads, leads', shown, fun isText isText' => ?_⟩
      rw [leads, leads', FileName.eq_of_text_eq isText isText' shown]
  · obtain ⟨_, companions, collected', writes, rfl⟩ := generate_eq_ok_iff.mp generated
    rw [collected] at collected'
    cases collected'
    have again : Generation.sources configuration after inputs = .ok found :=
      sources_eq_of_undisturbed (writes.undisturbed plain) noFiles collected
    exact ⟨again, generate_eq_ok_iff.mpr
      ⟨found, companions, again, writes.again plain ends, rfl⟩⟩

/-- A file with the bytes of a text is read as this text. -/
theorem textAt?_of_content? {location : Location} {text : String}
    (held : workspace.tree.content? location = some (Text.bytesOf text)) :
    workspace.textAt? location = some text := by
  rw [Workspace.textAt?, held, Option.bind_some, Text.stringOf_bytesOf]
  rfl

/-- The text of a source with one family, in which the marker stands. -/
def oneFamily : String :=
  "type A = u8;\n/// enumforge: one\nconst B: A = 1;\n"

/-- A workspace with one source beside an older companion. -/
def oneSource : Workspace where
  tree := ⟨[(["src", "a.rs"], Text.bytesOf oneFamily), (["src", "a_enums.rs"], [])], []⟩
  directory := []
  environment := []

theorem families_oneFamily (filename : String) :
    families .default filename oneFamily = .ok [Scan.oneMember " enumforge: one".toList] := by
  have read : Source.fileTokens? oneFamily.toList =
      some (Scan.oneConstant " enumforge: one".toList) := by
    rfl
  unfold families
  rw [Scan.scan_oneConstant read]
  rfl

theorem textAt?_oneSource : oneSource.textAt? ["src", "a.rs"] = some oneFamily :=
  textAt?_of_content? rfl

theorem locate?_oneSource :
    oneSource.locate? (.ofText "src/a.rs") =
      some ([FileName.ofText "src"] ++ [FileName.ofText "a.rs"]) := by
  decide +kernel

theorem text?_oneSource : oneSource.text? (.ofText "src/a.rs") = some oneFamily := by
  rw [Workspace.text?, locate?_oneSource, Option.bind_some]
  exact textAt?_oneSource

theorem sources_oneSource :
    Generation.sources .default oneSource [.ofText "src"] = .ok [.ofText "src/a.rs"] := by
  have below : oneSource.tree.filesBelow ["src"] =
      ([["src", "a.rs"], ["src", "a_enums.rs"]] : List Location) :=
    List.mergeSort_of_pairwise (by decide +kernel)
  have counts : isSource oneSource "_enums" ["src", "a.rs"] = true := by
    rw [isSource, textAt?_oneSource]
    decide +kernel
  have passed : ¬isSource oneSource "_enums" ["src", "a_enums.rs"] = true := by decide +kernel
  have own : sourcesOf .default oneSource (.ofText "src") = .ok [.ofText "src/a.rs"] := by
    refine (sourcesOf_eq_ok_iff (by decide +kernel)).mpr
      ⟨["src"], by decide +kernel, by decide +kernel, ?_⟩
    rw [below, Configuration.default, List.filter_cons_of_pos counts,
      List.filter_cons_of_neg passed]
    rfl
  exact sources_cons_eq_ok_iff.mpr ⟨_, [], own, rfl, rfl⟩

theorem outputPath_oneSource :
    outputPath .default (.ofText "src/a.rs") = .ok (.ofText "src/a_enums.rs") :=
  outputPath_eq_ok_iff.mpr
    ⟨.ofText "src", "a.rs", by decide +kernel, by decide +kernel, by decide +kernel⟩

theorem exists_render_oneSource :
    ∃ companion, render .default oneSource (.ofText "src/a.rs") = .ok companion := by
  exact ⟨_, render_eq_ok_iff.mpr
    ⟨_, _, _, outputPath_oneSource, text?_oneSource, families_oneFamily _, rfl⟩⟩

/-- The older companion is no source, and is overwritten in both runs. -/
theorem generate_again_of_oneSource :
    Configuration.checkSuffix Configuration.default.outputSuffix = .ok () ∧
    (∀ input ∈ [Path.ofText "src"], oneSource.isFile input = false) ∧
    Generation.sources .default oneSource [.ofText "src"] = .ok [.ofText "src/a.rs"] ∧
    ∃ report after, generate .default oneSource [.ofText "src"] = (.ok report, after) ∧
      generate .default after [.ofText "src"] = (.ok report, after) := by
  have accepted : Configuration.checkSuffix Configuration.default.outputSuffix = .ok () := rfl
  have noFiles : ∀ input ∈ [Path.ofText "src"], oneSource.isFile input = false := by decide +kernel
  obtain ⟨companion, rendered⟩ := exists_render_oneSource
  have output := (source_and_output_of_render rendered).2
  rw [outputPath_oneSource] at output
  obtain ⟨after, written⟩ : ∃ after,
      oneSource.write companion.output companion.text = .ok after := by
    rw [← Except.ok.inj output]
    exact ⟨_, Workspace.write_eq_ok_iff.mpr
      ⟨["src", "a_enums.rs"], by decide +kernel, by decide +kernel, rfl⟩⟩
  have generated := generate_eq_ok_iff.mpr
    ⟨_, _, sources_oneSource, .next rendered written (.done after), rfl⟩
  exact ⟨accepted, noFiles, sources_oneSource, _, after, generated,
    ((generate_again accepted noFiles sources_oneSource).2.2 _ after generated).2⟩

/-- A name with a byte that stands in no text. -/
def unreadableName : FileName := ⟨[0x61, 0xFE, 0x2E, 0x72, 0x73]⟩

/-- The text that is shown of it, as a name of its own. -/
def replacedName : FileName := "a\uFFFD.rs"

/-- A directory with two sources of these names. -/
def shownAlike : Workspace where
  tree := ⟨[(["d", replacedName], Text.bytesOf oneFamily),
    (["d", unreadableName], Text.bytesOf oneFamily)], []⟩
  directory := []
  environment := []

theorem sources_shownAlike :
    Generation.sources .default shownAlike [.ofText "d"] =
      .ok [⟨false, ["d", replacedName]⟩, ⟨false, ["d", unreadableName]⟩] := by
  have below : shownAlike.tree.filesBelow ["d"] =
      ([["d", replacedName], ["d", unreadableName]] : List Location) :=
    List.mergeSort_of_pairwise (by decide +kernel)
  have counts (name : FileName) (named : isSourceName "_enums" name = true)
      (held : shownAlike.tree.content? ["d", name] = some (Text.bytesOf oneFamily)) :
      isSource shownAlike "_enums" ["d", name] = true := by
    have marked : isMarked oneFamily = true := by decide +kernel
    simp only [isSource, List.getLast?_cons_cons, List.getLast?_singleton, Option.any_some, named,
      textAt?_of_content? held, marked, Bool.and_self]
  have own : sourcesOf .default shownAlike (.ofText "d") =
      .ok [⟨false, ["d", replacedName]⟩, ⟨false, ["d", unreadableName]⟩] := by
    refine (sourcesOf_eq_ok_iff (by decide +kernel)).mpr
      ⟨["d"], by decide +kernel, by decide +kernel, ?_⟩
    rw [below, Configuration.default,
      List.filter_cons_of_pos (counts replacedName (by decide +kernel) rfl),
      List.filter_cons_of_pos (counts unreadableName (by decide +kernel) rfl)]
    rfl
  exact sources_cons_eq_ok_iff.mpr ⟨_, [], own, rfl, rfl⟩

/-- The names of two sources are shown alike, and their companions go to one place. -/
theorem outputPath_of_shownAlike :
    Configuration.checkSuffix Configuration.default.outputSuffix = .ok () ∧
    shownAlike.isFile (.ofText "d") = false ∧
    ∃ first second, Generation.sources .default shownAlike [.ofText "d"] = .ok [first, second] ∧
      first.split? = some (.ofText "d", replacedName) ∧
      second.split? = some (.ofText "d", unreadableName) ∧ replacedName ≠ unreadableName ∧
      outputPath .default first = .ok (.ofText "d/a\uFFFD_enums.rs") ∧
      outputPath .default second = .ok (.ofText "d/a\uFFFD_enums.rs") := by
  refine ⟨rfl, by decide +kernel, _, _, sources_shownAlike, by decide +kernel, by decide +kernel,
    by decide, ?_, ?_⟩
  · exact outputPath_eq_ok_iff.mpr
      ⟨.ofText "d", replacedName, by decide +kernel, by decide +kernel, by decide +kernel⟩
  · exact outputPath_eq_ok_iff.mpr
      ⟨.ofText "d", unreadableName, by decide +kernel, by decide +kernel, by decide +kernel⟩

end Generation

end NamedConstants
