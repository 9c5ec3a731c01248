import NamedConstants.Proofs.CommandLine.Reproduction
import NamedConstants.Proofs.Generation.Ahead

/-!
# Dry runs

A dry run renders the companions and writes none. It leaves the workspace as it is, and
it prints a line for each companion that it has rendered. Where no companion goes where
a source is, it tells what the same command does without `--dry-run`: it fails with the
same failure, or its lines are the ones of the files that the command reports
(`dryRun_predicts`). The two go through the sources in loops of their own, and both are
compared with rendering everything at the start (`previewEach_eq`,
`Generation.result_generateEach`).
-/

set_option autoImplicit false

namespace NamedConstants.CommandLine

open Generation (renderEach LieApart CanBeWritten)

variable {configuration : Configuration} {workspace : Workspace}
variable {invocation : Invocation} {options : GenerateOptions}

/-! ## The two loops -/

/-- A preview fails as rendering does, and has a line for each companion otherwise. -/
theorem previewEach_eq (configuration : Configuration) (workspace : Workspace)
    (sources : List Path) :
    (previewEach configuration workspace sources).1 =
        (renderEach configuration workspace sources).map (fun _ => ()) ∧
      ∀ companions, renderEach configuration workspace sources = .ok companions →
        (previewEach configuration workspace sources).2 =
          String.join (companions.map fun companion => fileLine companion.written) := by
  induction sources with
  | nil =>
      refine ⟨rfl, ?_⟩
      rintro companions ⟨⟩
      rfl
  | cons source sources ih =>
      obtain ⟨result, lines⟩ := ih
      rw [previewEach, renderEach, List.mapM_cons, ← renderEach]
      cases Generation.render configuration workspace source with
      | error failure =>
          refine ⟨rfl, ?_⟩
          rintro companions ⟨⟩
      | ok companion =>
          dsimp only
          rw [result]
          cases others : renderEach configuration workspace sources with
          | error failure =>
              refine ⟨rfl, ?_⟩
              rintro companions ⟨⟩
          | ok companions =>
              refine ⟨rfl, ?_⟩
              rintro _ ⟨⟩
              rw [lines companions others, List.map_cons, String.join_cons]

/-- A preview changes nothing. -/
theorem workspace_preview (configuration : Configuration) (workspace : Workspace)
    (inputs : List Path) : (preview configuration workspace inputs).workspace = workspace := by
  unfold preview
  cases Generation.sources configuration workspace inputs with
  | error failure => rfl
  | ok sources => rfl

/-- **A preview and a run end alike.** They have the same failure, or the preview has the
lines of what the run reports. -/
theorem preview_and_produce {inputs : List Path}
    (apart : ∀ sources, Generation.sources configuration workspace inputs = .ok sources →
      LieApart configuration workspace sources ∧ CanBeWritten configuration workspace sources) :
    (∃ failure, (preview configuration workspace inputs).answer = .error failure ∧
      (produce configuration workspace inputs).answer = .error failure) ∨
    ∃ report, (preview configuration workspace inputs).answer = .ok .done ∧
      (produce configuration workspace inputs).answer = .ok (.report report) ∧
      (preview configuration workspace inputs).output = String.join (report.files.map fileLine) := by
  unfold preview produce
  cases collected : Generation.sources configuration workspace inputs with
  | error failure =>
      rw [Generation.generate_of_error collected]
      exact Or.inl ⟨failure, rfl, rfl⟩
  | ok sources =>
      obtain ⟨apart, writable⟩ := apart sources collected
      obtain ⟨shown, lines⟩ := previewEach_eq configuration workspace sources
      have generated := Generation.result_generateEach apart writable
      rw [Generation.generate_of_ok collected, generated]
      dsimp only
      rw [shown]
      cases rendered : renderEach configuration workspace sources with
      | error failure => exact Or.inl ⟨failure, rfl, rfl⟩
      | ok companions =>
          refine Or.inr ⟨⟨companions.map Rendered.written⟩, rfl, rfl, ?_⟩
          rw [lines companions rendered, List.map_map]
          rfl

/-! ## The command -/

/-- The invocation as a dry run or as a run that writes. -/
def asDryRun (invocation : Invocation) (options : GenerateOptions) (isDryRun : Bool) : Invocation :=
  { invocation with command := some (.generate { options with isDryRun }) }

/-- **A dry run tells what the run does.** It leaves the workspace as it is. If no
companion goes where a source is and every companion can be written, it fails exactly
when the same command without `--dry-run` fails, with the same failure; and otherwise
its lines are the ones of the files that this command reports, in their order. -/
theorem dryRun_predicts
    (apart : ∀ configuration inputs sources,
      generateSettings workspace invocation options = .ok (configuration, inputs) →
      Generation.sources configuration workspace inputs = .ok sources →
      LieApart configuration workspace sources ∧ CanBeWritten configuration workspace sources) :
    let dry := run workspace (asDryRun invocation options true)
    let real := run workspace (asDryRun invocation options false)
    dry.workspace = workspace ∧
    ((∃ failure, dry.answer = .error failure ∧ real.answer = .error failure) ∨
      ∃ report, dry.answer = .ok .done ∧ real.answer = .ok (.report report) ∧
        dry.output = String.join (report.files.map fun file =>
          file.source.text ++ " -> " ++ file.output.text ++ " (" ++ toString file.familyCount ++
            " enum(s), " ++ toString file.byteCount ++ " bytes)\n")) := by
  intro dry real
  have settings (isDryRun : Bool) :
      generateSettings workspace (asDryRun invocation options isDryRun) { options with isDryRun } =
        generateSettings workspace invocation options := rfl
  have dryRan : dry = generate workspace (asDryRun invocation options true)
      { options with isDryRun := true } := rfl
  have ran : real = generate workspace (asDryRun invocation options false)
      { options with isDryRun := false } := rfl
  rw [dryRan, ran, generate, generate, settings, settings]
  cases settled : generateSettings workspace invocation options with
  | error failure => exact ⟨rfl, Or.inl ⟨failure, rfl, rfl⟩⟩
  | ok found =>
      obtain ⟨configuration, inputs⟩ := found
      exact ⟨workspace_preview configuration workspace inputs,
        preview_and_produce fun sources => apart configuration inputs sources settled⟩

/-! ## A directory with one source -/

section OneSource

open Generation (oneSource locate?_oneSource)

/-- Companions are asked for a directory. -/
def directoryOptions : GenerateOptions := ⟨[.ofText "src"], false, false, none, false⟩

theorem generateSettings_oneSource :
    generateSettings oneSource (oneInvocation directoryOptions) directoryOptions =
      .ok (.default, [.ofText "src"]) :=
  generateSettings_eq_ok_iff.mpr ⟨_, load_oneSource, rfl, rfl⟩

/-- The older companion is overwritten, and it is no source. -/
theorem liesApart_oneSource :
    LieApart .default oneSource [.ofText "src/a.rs"] ∧
      CanBeWritten .default oneSource [.ofText "src/a.rs"] := by
  have placed := Generation.outputPath_oneSource
  have leads : oneSource.locate? (.ofText "src/a_enums.rs") =
      some (["src", "a_enums.rs"] : Location) := by
    decide +kernel
  constructor
  · intro source listed output own other listed' location located
    rw [List.mem_singleton.mp listed, placed] at own
    rw [List.mem_singleton.mp listed', locate?_oneSource] at located
    cases own
    cases located
    rw [leads]
    decide
  · intro source listed companion rendered
    have own := (Generation.source_and_output_of_render rendered).2
    rw [List.mem_singleton.mp listed, placed] at own
    rw [← Except.ok.inj own]
    exact ⟨_, Workspace.write_of_locate? leads (by decide +kernel) companion.text⟩

/-- The preview of the directory does not fail. -/
theorem answer_preview_oneSource : (preview .default oneSource [.ofText "src"]).answer = .ok .done := by
  obtain ⟨companion, rendered⟩ := Generation.exists_render_oneSource
  have all : renderEach .default oneSource [.ofText "src/a.rs"] = .ok [companion] := by
    rw [renderEach, List.mapM_cons, rendered]
    rfl
  rw [preview, Generation.sources_oneSource]
  dsimp only
  rw [(previewEach_eq .default oneSource [.ofText "src/a.rs"]).1, all]
  rfl

/-- The dry run has the line of the companion that the run writes. -/
theorem dryRun_predicts_oneSource :
    let invocation := oneInvocation directoryOptions
    let dry := run oneSource (asDryRun invocation directoryOptions true)
    let real := run oneSource (asDryRun invocation directoryOptions false)
    (∀ configuration inputs sources,
      generateSettings oneSource invocation directoryOptions = .ok (configuration, inputs) →
      Generation.sources configuration oneSource inputs = .ok sources →
      LieApart configuration oneSource sources ∧ CanBeWritten configuration oneSource sources) ∧
    dry.workspace = oneSource ∧ dry.answer = .ok .done ∧
    ∃ report, real.answer = .ok (.report report) ∧
      dry.output = String.join (report.files.map fun file =>
        file.source.text ++ " -> " ++ file.output.text ++ " (" ++ toString file.familyCount ++
          " enum(s), " ++ toString file.byteCount ++ " bytes)\n") := by
  intro invocation dry real
  have apart : ∀ configuration inputs sources,
      generateSettings oneSource invocation directoryOptions = .ok (configuration, inputs) →
      Generation.sources configuration oneSource inputs = .ok sources →
      LieApart configuration oneSource sources ∧ CanBeWritten configuration oneSource sources := by
    intro configuration inputs sources settled collected
    cases generateSettings_oneSource.symm.trans settled
    cases Generation.sources_oneSource.symm.trans collected
    exact liesApart_oneSource
  obtain ⟨kept, ended⟩ := dryRun_predicts apart
  refine ⟨apart, kept, ?_⟩
  rcases ended with ⟨failure, failed, -⟩ | ⟨report, shown, reported, lines⟩
  · have shown : dry.answer = .ok .done := answer_preview_oneSource
    exact absurd (shown.symm.trans failed) (by simp)
  · exact ⟨shown, report, reported, lines⟩

end OneSource

end NamedConstants.CommandLine
