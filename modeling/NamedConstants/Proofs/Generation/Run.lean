import NamedConstants.Generation.Basic
import NamedConstants.Proofs.FileTree.Workspace
import NamedConstants.Proofs.Generation.Sources
import NamedConstants.Proofs.Text.Utf8

/-!
# What a run writes

A run takes its sources one after the other. Each companion is rendered in the
workspace as it is by then and is written to it (`Writes`). The run ends with
the last source, or with the first one whose companion cannot be rendered or
written; the companions before it stay (`generateEach_spec`).

In the end a file holds the text of the last companion that was written to it,
and a file that no companion was written to holds what it held before
(`Writes.content?_eq`).
-/

set_option autoImplicit false

namespace NamedConstants

/-- The file that a companion becomes. -/
def Rendered.file (companion : Rendered) : Path × String :=
  (companion.output, companion.text)

/-- The number of bytes that is reported is the number of bytes written. -/
theorem Rendered.byteCount_written (companion : Rendered) :
    companion.written.byteCount = (Text.bytesOf companion.text).length :=
  (Text.length_bytesOf companion.text).symm

namespace Generation

/-- The last of the companions whose output leads to a location. -/
def lastAt? (workspace : Workspace) (companions : List Rendered) (location : Location) :
    Option Rendered :=
  companions.reverse.find? fun companion => workspace.locate? companion.output == some location

variable {configuration : Configuration} {workspace last : Workspace}
variable {source : Path} {sources : List Path} {companions : List Rendered}

/-! ## One source -/

theorem generateFile_eq_ok_iff {file : WrittenFile} :
    generateFile configuration workspace source = .ok (file, last) ↔
      ∃ companion, render configuration workspace source = .ok companion ∧
        workspace.write companion.output companion.text = .ok last ∧ file = companion.written := by
  simp only [generateFile, bind_eq_ok_iff, pure, Except.pure, Except.ok.injEq, Prod.mk.injEq]
  constructor
  · rintro ⟨companion, rendered, after, written, rfl, rfl⟩
    exact ⟨companion, rendered, written, rfl⟩
  · rintro ⟨companion, rendered, written, rfl⟩
    exact ⟨companion, rendered, last, written, rfl, rfl⟩

theorem sourceText_eq_ok_iff {text : String} :
    sourceText workspace source = .ok text ↔ workspace.text? source = some text := by
  unfold sourceText
  cases workspace.text? source with
  | none => simp
  | some held => simp

theorem render_eq_ok_iff {companion : Rendered} :
    render configuration workspace source = .ok companion ↔
      ∃ output text declarations, outputPath configuration source = .ok output ∧
        workspace.text? source = some text ∧
        families configuration source.text text = .ok declarations ∧
        companion = ⟨source, output,
          Companion.write (request configuration
            ((source.fileName?.map FileName.text).getD source.text) declarations),
          declarations⟩ := by
  simp only [render, bind_eq_ok_iff, sourceText_eq_ok_iff, pure, Except.pure, Except.ok.injEq]
  constructor
  · rintro ⟨output, placed, text, read, declarations, declared, rfl⟩
    exact ⟨output, text, declarations, placed, read, declared, rfl⟩
  · rintro ⟨output, text, declarations, placed, read, declared, rfl⟩
    exact ⟨output, placed, text, read, declarations, declared, rfl⟩

/-- A companion depends on no more of a workspace than the text of its source. -/
theorem render_congr {base : Workspace} (same : workspace.text? source = base.text? source) :
    render configuration workspace source = render configuration base source := by
  rw [render, render, sourceText, sourceText, same]

/-- A companion is rendered for its source, and goes where the source says. -/
theorem source_and_output_of_render {companion : Rendered}
    (rendered : render configuration workspace source = .ok companion) :
    companion.source = source ∧ outputPath configuration source = .ok companion.output := by
  obtain ⟨output, text, declarations, placed, -, -, rfl⟩ := render_eq_ok_iff.mp rendered
  exact ⟨rfl, placed⟩

/-! ## Sources one after the other -/

/-- The companions of the sources are written in their order, each one rendered
in the workspace as the ones before it left it. -/
inductive Writes (configuration : Configuration) :
    Workspace → List Path → List Rendered → Workspace → Prop
  | done (workspace : Workspace) : Writes configuration workspace [] [] workspace
  | next {workspace after last : Workspace} {source : Path} {sources : List Path}
      {companion : Rendered} {companions : List Rendered}
      (rendered : render configuration workspace source = .ok companion)
      (written : workspace.write companion.output companion.text = .ok after)
      (others : Writes configuration after sources companions last) :
      Writes configuration workspace (source :: sources) (companion :: companions) last

/-- The turn of a source: the workspace that the companions of the sources before it
leave. -/
def IsTurn (configuration : Configuration) (workspace : Workspace) (sources : List Path)
    (source : Path) (turn : Workspace) : Prop :=
  ∃ before companions, before ++ [source] <+: sources ∧
    Writes configuration workspace before companions turn

/-- The turn of an only source is the start. -/
theorem IsTurn.eq_of_singleton {other : Path} {turn : Workspace}
    (turns : IsTurn configuration workspace [other] source turn) : turn = workspace := by
  obtain ⟨before, companions, started, writes⟩ := turns
  have short := started.length_le
  rw [List.length_append, List.length_singleton, List.length_singleton] at short
  cases before with
  | nil =>
      cases writes
      rfl
  | cons first before => simp at short

namespace Writes

theorem outputs_eq (writes : Writes configuration workspace sources companions last) :
    sources.map (outputPath configuration) = companions.map fun companion => .ok companion.output
    := by
  induction writes with
  | done workspace => rfl
  | next rendered written others ih =>
      rw [List.map_cons, List.map_cons, ih, (source_and_output_of_render rendered).2]

/-- Every companion is rendered at the turn of its source. -/
theorem exists_turn (writes : Writes configuration workspace sources companions last)
    {companion : Rendered} (listed : companion ∈ companions) :
    ∃ turn, IsTurn configuration workspace sources companion.source turn ∧
      render configuration turn companion.source = .ok companion := by
  induction writes with
  | done workspace => cases listed
  | next rendered written others ih =>
      rcases List.mem_cons.mp listed with rfl | later
      · rw [(source_and_output_of_render rendered).1]
        exact ⟨_, ⟨[], [], ⟨_, rfl⟩, .done _⟩, rendered⟩
      · obtain ⟨turn, ⟨before, earlier, ⟨rest, split⟩, writes⟩, rendered'⟩ := ih later
        exact ⟨turn, ⟨_ :: before, _ :: earlier, ⟨rest, congrArg (_ :: ·) split⟩,
          .next rendered written writes⟩, rendered'⟩

/-- The companions are written as files. -/
theorem writeAll_eq (writes : Writes configuration workspace sources companions last) :
    workspace.writeAll (companions.map Rendered.file) = .ok last := by
  induction writes with
  | done workspace => rfl
  | next rendered written others ih =>
      rw [List.map_cons, Workspace.writeAll_cons_eq_ok_iff]
      exact ⟨_, written, ih⟩

/-- A file holds the text of the last companion that was written to it, or what
it held before. -/
theorem content?_eq (writes : Writes configuration workspace sources companions last)
    (location : Location) :
    last.tree.content? location =
      ((lastAt? workspace companions location).map fun companion =>
        Text.bytesOf companion.text).or (workspace.tree.content? location) := by
  induction writes with
  | done workspace => rfl
  | @next workspace after last source sources companion companions rendered written others ih =>
      have same := Workspace.samePlaces_of_write written
      have later : lastAt? after companions location = lastAt? workspace companions location := by
        simp only [lastAt?, same.locate?]
      obtain ⟨place, located, -, rfl⟩ := Workspace.write_eq_ok_iff.mp written
      rw [ih, later, FileTree.content?_write, lastAt?, lastAt?, List.reverse_cons,
        List.find?_append, Option.map_or, Option.or_assoc, List.find?_singleton, located]
      by_cases here : location = place
      · simp [here]
      · have off : ¬place = location := fun eq => here eq.symm
        simp [here, off]

end Writes

/-- **A run writes the companions of its first sources.** They are the companions
of all sources, or the next source fails in the workspace that they leave. -/
theorem generateEach_spec (configuration : Configuration) (workspace : Workspace)
    (sources : List Path) :
    ∃ companions : List Rendered,
      Writes configuration workspace (sources.take companions.length) companions
        (generateEach configuration workspace sources).2 ∧
      ((companions.length = sources.length ∧
          (generateEach configuration workspace sources).1 =
            .ok (companions.map Rendered.written)) ∨
        ∃ source failure, sources[companions.length]? = some source ∧
          generateFile configuration (generateEach configuration workspace sources).2 source =
            .error failure ∧
          (generateEach configuration workspace sources).1 = .error failure) := by
  induction sources generalizing workspace with
  | nil => exact ⟨[], .done workspace, Or.inl ⟨rfl, rfl⟩⟩
  | cons source sources ih =>
      rw [generateEach]
      cases generated : generateFile configuration workspace source with
      | error failure => exact ⟨[], .done workspace, Or.inr ⟨source, failure, rfl, generated, rfl⟩⟩
      | ok outcome =>
          obtain ⟨file, after⟩ := outcome
          obtain ⟨companion, rendered, written, rfl⟩ := generateFile_eq_ok_iff.mp generated
          obtain ⟨companions, writes, outcome⟩ := ih after
          refine ⟨companion :: companions, .next rendered written writes, ?_⟩
          rcases outcome with ⟨whole, result⟩ | ⟨next, failure, stands, failed, result⟩
          · left
            simp [whole, result, Except.map]
          · right
            refine ⟨next, failure, stands, failed, ?_⟩
            simp [result, Except.map]

/-! ## A whole run -/

theorem generate_of_error {inputs : List Path} {failure : Failure}
    (failed : Generation.sources configuration workspace inputs = .error failure) :
    generate configuration workspace inputs = (.error failure, workspace) := by
  rw [generate, failed]

theorem generate_of_ok {inputs found : List Path}
    (collected : Generation.sources configuration workspace inputs = .ok found) :
    generate configuration workspace inputs =
      ((generateEach configuration workspace found).1.map Report.mk,
        (generateEach configuration workspace found).2) := by
  rw [generate, collected]

/-- **A run writes the companions of its first sources and nothing else.** If the
sources cannot be collected, because there is nothing at an input, the workspace
stays. Otherwise the companions of some of the first sources are written, each
rendered in the workspace at its turn. They are all of them exactly when the run
succeeds, and then they are what it reports; if it fails, then with the failure
of the source that comes next. A file to which no companion is written holds
what it held, and no directory is new. -/
theorem generate_writes_prefix (configuration : Configuration) (workspace : Workspace)
    (inputs : List Path) :
    let result := (generate configuration workspace inputs).1
    let last := (generate configuration workspace inputs).2
    match Generation.sources configuration workspace inputs with
    | .error failure =>
        result = .error failure ∧ last = workspace ∧
          ∃ before input after, inputs = before ++ input :: after ∧
            (∀ other ∈ before, workspace.isThere other = true) ∧
            workspace.isThere input = false ∧ failure = .invalidPath input.text
    | .ok found =>
        ∃ companions : List Rendered,
          Writes configuration workspace (found.take companions.length) companions last ∧
          (found.take companions.length).map (outputPath configuration) =
            companions.map (fun companion => .ok companion.output) ∧
          (∀ report, result = .ok report ↔
            companions.length = found.length ∧ report = ⟨companions.map Rendered.written⟩) ∧
          (∀ failure, result = .error failure →
            ∃ source, found[companions.length]? = some source ∧
              generateFile configuration last source = .error failure) ∧
          (∀ companion ∈ companions,
            companion.written.byteCount = (Text.bytesOf companion.text).length) ∧
          (∀ location, last.tree.content? location =
            ((lastAt? workspace companions location).map fun companion =>
              Text.bytesOf companion.text).or (workspace.tree.content? location)) ∧
          workspace.SamePlaces last := by
  intro result last
  cases collected : Generation.sources configuration workspace inputs with
  | error failure =>
      have outcome := generate_of_error collected
      exact ⟨congrArg Prod.fst outcome, congrArg Prod.snd outcome,
        sources_eq_error_iff.mp collected⟩
  | ok found =>
      have outcome := generate_of_ok collected
      have results : result = (generateEach configuration workspace found).1.map Report.mk :=
        congrArg Prod.fst outcome
      have lasts : last = (generateEach configuration workspace found).2 :=
        congrArg Prod.snd outcome
      obtain ⟨companions, writes, ends⟩ := generateEach_spec configuration workspace found
      rw [← lasts] at writes ends
      refine ⟨companions, writes, writes.outputs_eq, ?_, ?_,
        fun companion _ => companion.byteCount_written, writes.content?_eq,
        Workspace.samePlaces_of_writeAll writes.writeAll_eq⟩
      · intro report
        rw [results]
        rcases ends with ⟨whole, succeeded⟩ | ⟨source, failure, stands, -, failed⟩
        · simp [succeeded, Except.map, whole, eq_comm]
        · have short : companions.length ≠ found.length := fun whole => by simp [whole] at stands
          simp [failed, Except.map, short]
      · intro failure reported
        rw [results] at reported
        rcases ends with ⟨-, succeeded⟩ | ⟨source, reason, stands, failed, same⟩
        · rw [succeeded] at reported
          cases reported
        · rw [same] at reported
          cases reported
          exact ⟨source, stands, failed⟩

end Generation

end NamedConstants
