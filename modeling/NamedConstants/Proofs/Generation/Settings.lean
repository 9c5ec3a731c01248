import NamedConstants.Proofs.Generation.Names
import NamedConstants.Proofs.Generation.Run

/-!
# What a companion depends on

What a companion holds depends on the name of its source and on the text of it, not
on the path that leads there, and on three of the settings (`Configuration.WritesAlike`).
Where it lies depends on the directory of the source and on the suffix. So a source
whose directory is the working directory, given by its name alone, gets the same
companion (`render_name`), and it goes to the place that the suffix says
(`locate?_output`).
-/

set_option autoImplicit false

namespace NamedConstants

/-- The settings that show in a companion are the same. -/
structure Configuration.WritesAlike (first second : Configuration) : Prop where
  failfast : second.failfast = first.failfast
  insensitive : second.insensitive = first.insensitive
  types : second.types = first.types

/-! ## Families -/

section Families

variable {first second : Configuration} {found : List Declaration} {text filename : String}

theorem Scan.openFamilies_congr (same : second.types = first.types) (items : List Source.Item) :
    openFamilies second items = openFamilies first items := by
  have options : second.optionsOf = first.optionsOf := by
    funext typeName
    rw [Configuration.optionsOf, Configuration.optionsOf, same]
  have opened : openFamily? second = openFamily? first := by
    funext item
    unfold openFamily?
    rw [options]
  induction items with
  | nil => rfl
  | cons item rest ih =>
      cases item <;> simp only [openFamilies, opened, ih]

/-- The file name only shows in a failure. -/
theorem Scan.close_of_close {families : List OpenFamily} (other : String)
    (closed : close filename families = .ok found) : close other families = .ok found := by
  induction families generalizing found with
  | nil => exact closed
  | cons family others ih =>
      unfold close at closed ⊢
      dsimp only at closed ⊢
      split at closed
      · split at closed
        · cases closed
        · rename_i empty unrequested
          rw [if_pos empty, if_neg unrequested]
          exact ih closed
      · rename_i filled
        rw [if_neg filled]
        obtain ⟨rest, kept, rfl⟩ := map_eq_ok_iff.mp closed
        exact map_eq_ok_iff.mpr ⟨rest, ih kept, rfl⟩

theorem Declaration.scan_of_scan (same : second.types = first.types) (other : String)
    (scanned : scan first filename text = .ok found) : scan second other text = .ok found := by
  unfold scan at scanned ⊢
  cases read : Source.fileItems? text.toList with
  | none =>
      rw [read] at scanned
      cases scanned
  | some items =>
      rw [read] at scanned
      dsimp only [Scan.ofItems] at scanned ⊢
      obtain ⟨families, opened, closed⟩ := bind_eq_ok_iff.mp scanned
      exact bind_eq_ok_iff.mpr ⟨families, (Scan.openFamilies_congr same items).trans opened,
        Scan.close_of_close other closed⟩

theorem Generation.families_eq_ok_iff {configuration : Configuration} :
    families configuration filename text = .ok found ↔
      Declaration.scan configuration filename text = .ok found ∧ found ≠ [] := by
  unfold families
  rw [bind_eq_ok_iff]
  constructor
  · rintro ⟨declarations, scanned, filled⟩
    cases declarations with
    | nil => cases filled
    | cons declaration others =>
        cases filled
        exact ⟨scanned, List.cons_ne_nil _ _⟩
  · rintro ⟨scanned, filled⟩
    refine ⟨found, scanned, ?_⟩
    cases found with
    | nil => exact absurd rfl filled
    | cons declaration others => rfl

end Families

namespace Generation

variable {configuration : Configuration} {workspace : Workspace} {source : Path}
variable {companion : Rendered} {name : FileName} {location : Location}

/-! ## Where it lies -/

/-- A path with a name leads to something of this name in a directory, and what is put
behind the directory of the path leads into the same one. -/
theorem exists_parent_of_locate? {directory : Path} (split : source.split? = some (directory, name))
    (located : workspace.locate? source = some location) :
    ∃ parent, location = parent ++ [name] ∧ workspace.tree.isDirectory parent = true ∧
      ∀ other, Path.isName other = true →
        workspace.locate? (directory.join ⟨false, [other]⟩) = some (parent ++ [other]) := by
  obtain ⟨before, trimmed, named, rfl⟩ := Path.exists_of_split? split
  obtain ⟨-, behind, cut, idleBehind⟩ := Path.exists_idle_of_trimmed source
  obtain ⟨absolute, inside, cut', idleInside⟩ :=
    Path.exists_idle_of_trimmed ⟨source.isAbsolute, before⟩
  have taken : source.pieces.foldlM (Workspace.step? workspace.tree) (workspace.start source) =
      some location := by
    unfold Workspace.locate? at located
    split at located
    · cases located
    · exact located
  rw [cut, trimmed] at taken
  have taken := Workspace.foldlM_step?_of_append_isIdle idleBehind taken
  rw [List.foldlM_append] at taken
  obtain ⟨parent, reached, last⟩ := Option.bind_eq_some_iff.mp taken
  obtain ⟨next, stepped, same⟩ := Option.bind_eq_some_iff.mp last
  cases same
  have directory := (Workspace.step?_cases stepped).1
  rw [Workspace.step?_of_isName named directory] at stepped
  refine ⟨parent, (Option.some.inj stepped).symm, directory, fun other named' => ?_⟩
  dsimp only at cut'
  rw [cut'] at reached
  have reached := Workspace.foldlM_step?_of_append_isIdle idleInside reached
  obtain ⟨kept, joined, split', idleJoined, join⟩ :=
    Path.exists_idle_of_join (Path.trimmed ⟨source.isAbsolute, before⟩) [other]
  rw [split'] at reached
  have reached := Workspace.foldlM_step?_of_append_isIdle idleJoined reached
  have spelled : (Path.bytes ⟨source.isAbsolute, kept ++ [other]⟩).isEmpty = false :=
    Path.isEmpty_bytes_of_isName List.getLast?_concat named'
  have start : workspace.start ⟨source.isAbsolute, kept ++ [other]⟩ = workspace.start source := rfl
  rw [join, absolute, Workspace.locate?, spelled, if_neg Bool.false_ne_true, start,
    List.foldlM_append, reached, Option.bind_eq_bind, Option.bind_some, List.foldlM_cons,
    Workspace.step?_of_isName named' directory]
  rfl

/-- A source that has a companion has a name, and lies in a directory under it. -/
theorem exists_parent_of_render
    (rendered : render configuration workspace source = .ok companion) :
    ∃ parent name, source.fileName? = some name ∧
      workspace.locate? source = some (parent ++ [name]) := by
  obtain ⟨output, text, declarations, placed, read, -, -⟩ := render_eq_ok_iff.mp rendered
  obtain ⟨directory, name, split, -⟩ := exists_of_outputPath placed
  obtain ⟨location, located, -⟩ := Option.bind_eq_some_iff.mp read
  obtain ⟨parent, rfl, -, -⟩ := exists_parent_of_locate? split located
  exact ⟨parent, name, congrArg (Option.map Prod.snd) split, located⟩

/-- **A companion lies beside its source, under the name that the suffix says.** -/
theorem locate?_output {parent : Location} (plain : '/' ∉ configuration.outputSuffix.toList)
    (rendered : render configuration workspace source = .ok companion)
    (called : source.fileName? = some name)
    (located : workspace.locate? source = some (parent ++ [name]))
    (whole : FileName.slash ∉ name.bytes) :
    workspace.locate? companion.output =
      some (parent ++ [companionName configuration.outputSuffix name]) := by
  obtain ⟨directory, own, split, output⟩ :=
    exists_of_outputPath (source_and_output_of_render rendered).2
  obtain ⟨parent', same, -, beside⟩ := exists_parent_of_locate? split located
  rw [Path.fileName?, split, Option.map_some] at called
  cases called
  rw [output, ofText_companionText plain whole, (List.append_inj' same rfl).1]
  exact beside _ (isName_of_isCompanionName (isCompanionName_companionName _ _))

/-! ## A source given by its name -/

variable {again : Workspace} {resumed : Configuration}

/-- Only a blank in the name of a source is refused, if the suffix is not. -/
theorem outputPath_of_split?
    (accepted : Configuration.checkSuffix configuration.outputSuffix = .ok ())
    {directory : Path} (split : source.split? = some (directory, name))
    (joined : ' ' ∉ name.text.toList) :
    outputPath configuration source =
      .ok (directory.join (.ofText (companionText configuration.outputSuffix name))) :=
  outputPath_eq_ok_iff.mpr ⟨directory, name, split,
    not_mem_companionText (not_mem_of_checkSuffix accepted rfl) joined (by decide), rfl⟩

theorem outputPath_name (accepted : Configuration.checkSuffix configuration.outputSuffix = .ok ())
    (named : Path.isName name = true) (whole : FileName.slash ∉ name.bytes)
    (joined : ' ' ∉ name.text.toList) :
    outputPath configuration ⟨false, [name]⟩ =
      .ok ⟨false, [companionName configuration.outputSuffix name]⟩ := by
  have split : Path.split? ⟨false, [name]⟩ = some (⟨false, []⟩, name) :=
    Path.split?_of_isName rfl named
  rw [outputPath_of_split? accepted split joined,
    ofText_companionText (slash_not_mem_of_checkSuffix accepted) whole]
  rfl

/-- A name leads to something of this name in the working directory. -/
theorem locate?_name (named : Path.isName name = true)
    (directory : workspace.tree.isDirectory workspace.directory = true) :
    workspace.locate? ⟨false, [name]⟩ = some (workspace.directory ++ [name]) := by
  have spelled : (Path.bytes ⟨false, [name]⟩).isEmpty = false :=
    Path.isEmpty_bytes_of_isName rfl named
  have start : workspace.start ⟨false, [name]⟩ = workspace.directory := rfl
  rw [Workspace.locate?, spelled, if_neg Bool.false_ne_true, List.foldlM_cons, start,
    Workspace.step?_of_isName named directory]
  rfl

/-- **A companion is rendered again from the name of its source.** -/
theorem render_name (alike : configuration.WritesAlike resumed)
    (accepted : Configuration.checkSuffix resumed.outputSuffix = .ok ())
    (rendered : render configuration workspace source = .ok companion)
    (called : source.fileName? = some name) (named : Path.isName name = true)
    (whole : FileName.slash ∉ name.bytes) (joined : ' ' ∉ name.text.toList)
    (same : again.text? ⟨false, [name]⟩ = workspace.text? source) :
    render resumed again ⟨false, [name]⟩ = .ok ⟨⟨false, [name]⟩,
      ⟨false, [companionName resumed.outputSuffix name]⟩, companion.text,
      companion.declarations⟩ := by
  obtain ⟨output, text, declarations, -, read, declared, rfl⟩ := render_eq_ok_iff.mp rendered
  obtain ⟨scanned, filled⟩ := families_eq_ok_iff.mp declared
  have declared' := families_eq_ok_iff.mpr
    ⟨Declaration.scan_of_scan alike.types (Path.text ⟨false, [name]⟩) scanned, filled⟩
  have called' : Path.fileName? ⟨false, [name]⟩ = some name :=
    congrArg (Option.map Prod.snd) (Path.split?_of_isName rfl named)
  refine render_eq_ok_iff.mpr ⟨_, text, declarations, outputPath_name accepted named whole joined,
    same.trans read, declared', ?_⟩
  rw [called, called', Option.map_some, Option.getD_some, Option.getD_some, request, request,
    alike.failfast, alike.insensitive]

end Generation

end NamedConstants
