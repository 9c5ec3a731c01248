import NamedConstants.Proofs.Generation.Run

/-!
# Rendering ahead of writing

A run renders each companion when it is the turn of its source, in the workspace that
the companions before it leave. If no companion goes where a source is (`LieApart`),
writing changes no source, so each companion is the one that is rendered at the start
(`keepsTexts_of_write`). If every companion can be written besides (`CanBeWritten`), a
run has the result of rendering all companions at the start, also where it fails
(`result_generateEach`).
-/

set_option autoImplicit false

namespace NamedConstants.Generation

/-- Renders the companions of sources in one workspace, until one of them fails. -/
def renderEach (configuration : Configuration) (workspace : Workspace) (sources : List Path) :
    Result (List Rendered) :=
  sources.mapM (render configuration workspace)

/-- No companion goes where a source is. -/
def LieApart (configuration : Configuration) (workspace : Workspace) (sources : List Path) :
    Prop :=
  ∀ source ∈ sources, ∀ output, outputPath configuration source = .ok output →
    ∀ other ∈ sources, ∀ location, workspace.locate? other = some location →
      workspace.locate? output ≠ some location

/-- Every companion that can be rendered can be written. -/
def CanBeWritten (configuration : Configuration) (workspace : Workspace) (sources : List Path) :
    Prop :=
  ∀ source ∈ sources, ∀ companion, render configuration workspace source = .ok companion →
    ∃ after, workspace.write companion.output companion.text = .ok after

/-- The workspaces have the same places, and the sources hold the same texts. -/
structure KeepsTexts (sources : List Path) (before after : Workspace) : Prop where
  places : before.SamePlaces after
  texts : ∀ source ∈ sources, after.text? source = before.text? source

variable {configuration : Configuration} {base workspace after : Workspace}
variable {source : Path} {sources : List Path}

/-! ## Writing keeps the sources -/

/-- A text stays when something is written elsewhere. -/
theorem text?_of_write {output other : Path} {text : String}
    (written : workspace.write output text = .ok after)
    (elsewhere : ∀ location, workspace.locate? other = some location →
      workspace.locate? output ≠ some location) :
    after.text? other = workspace.text? other := by
  have places := Workspace.samePlaces_of_write written
  obtain ⟨place, leads, -, rfl⟩ := Workspace.write_eq_ok_iff.mp written
  rw [Workspace.text?, Workspace.text?, places.locate?]
  cases located : workspace.locate? other with
  | none => rfl
  | some location =>
      have apart : location ≠ place := fun same => elsewhere location located (same ▸ leads)
      rw [Option.bind_some, Option.bind_some, Workspace.textAt?, Workspace.textAt?,
        FileTree.content?_write, if_neg apart]

/-- **A companion that lies apart keeps the sources.** -/
theorem keepsTexts_of_write {companion : Rendered}
    (apart : LieApart configuration base sources) (listed : source ∈ sources)
    (same : KeepsTexts sources base workspace)
    (rendered : render configuration base source = .ok companion)
    (written : workspace.write companion.output companion.text = .ok after) :
    KeepsTexts sources base after where
  places := same.places.trans (Workspace.samePlaces_of_write written)
  texts other listed' := by
    have placed := (source_and_output_of_render rendered).2
    have elsewhere : ∀ location, workspace.locate? other = some location →
        workspace.locate? companion.output ≠ some location := by
      intro location located
      rw [same.places.locate?] at located ⊢
      exact apart source listed companion.output placed other listed' location located
    exact (text?_of_write written elsewhere).trans (same.texts other listed')

/-- What can be written at the start can be written at its turn. -/
theorem exists_write_of_samePlaces {output : Path} {text : String}
    (same : base.SamePlaces workspace) (written : base.write output text = .ok after) :
    ∃ next, workspace.write output text = .ok next := by
  obtain ⟨location, located, free, -⟩ := Workspace.write_eq_ok_iff.mp written
  exact ⟨_, Workspace.write_of_locate? ((same.locate? output).trans located)
    ((same.isDirectory location).trans free) text⟩

/-! ## A run of sources -/

/-- The sources that are left are rendered as at the start. -/
theorem result_generateEach_of_suffix {left : List Path} (rest : left <:+ sources)
    (apart : LieApart configuration base sources)
    (writable : CanBeWritten configuration base sources)
    (same : KeepsTexts sources base workspace) :
    (generateEach configuration workspace left).1 =
      (renderEach configuration base left).map (List.map Rendered.written) := by
  induction left generalizing workspace with
  | nil => rfl
  | cons source left ih =>
      have listed : source ∈ sources := rest.subset List.mem_cons_self
      have here : render configuration workspace source = render configuration base source :=
        render_congr (same.texts source listed)
      rw [generateEach, renderEach, List.mapM_cons, ← renderEach]
      cases rendered : render configuration base source with
      | error failure =>
          rw [generateFile, here, rendered]
          rfl
      | ok companion =>
          obtain ⟨_, written⟩ := writable source listed companion rendered
          obtain ⟨next, written⟩ := exists_write_of_samePlaces same.places written
          have generated : generateFile configuration workspace source =
              .ok (companion.written, next) :=
            generateFile_eq_ok_iff.mpr ⟨companion, here.trans rendered, written, rfl⟩
          have later := ih ((List.suffix_cons source left).trans rest)
            (keepsTexts_of_write apart listed same rendered written)
          rw [generated]
          dsimp only
          rw [later]
          cases renderEach configuration base left with
          | error failure => rfl
          | ok companions => rfl

/-- **A run has the result of rendering everything at the start.** -/
theorem result_generateEach (apart : LieApart configuration workspace sources)
    (writable : CanBeWritten configuration workspace sources) :
    (generateEach configuration workspace sources).1 =
      (renderEach configuration workspace sources).map (List.map Rendered.written) :=
  result_generateEach_of_suffix (List.suffix_refl sources) apart writable
    ⟨.refl workspace, fun _ _ => rfl⟩

end NamedConstants.Generation
