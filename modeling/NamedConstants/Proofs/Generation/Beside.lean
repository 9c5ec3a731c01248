import NamedConstants.Proofs.Companion.Lines
import NamedConstants.Proofs.Generation.Again
import NamedConstants.Proofs.Generation.Ahead
import NamedConstants.Proofs.Generation.Settings

/-!
# Companions beside their sources

A companion lies in the directory of its source (`LiesBeside`), and what is refused in a
suffix keeps it there. It does not keep the two apart: the empty suffix is accepted, and
puts the extension of sources behind the stem again, so a source that is named as sources
are, and whose name is a text, is its own companion (`companionName_eq_self_iff`). Then
writing the companion replaces the source; under any other suffix, or from a file of
another name, the source keeps its text (`companion_beside_source`). A run over
directories does not meet the first case, since every source then counts as a companion,
but a file can be given by itself.
-/

set_option autoImplicit false

namespace NamedConstants.Generation

/-- The companion of a file of this name has the same name. -/
def IsOwnCompanion (suffix : String) (name : FileName) : Prop :=
  suffix = "" ∧ Path.extension? name = some ("rs" : FileName) ∧ name.isText = true

/-- The output lies in the directory of the source, under the name of its companion: both
paths split there, and in every workspace they lead into one directory. -/
structure LiesBeside (suffix : String) (source output : Path) (name : FileName) : Prop where
  split : ∃ directory, source.split? = some (directory, name) ∧
    output.split? = some (directory, companionName suffix name)
  leads : ∀ (workspace : Workspace) (location : Location),
    workspace.locate? source = some location →
      ∃ parent : Location, location = parent ++ [name] ∧
        workspace.locate? output = some (parent ++ [companionName suffix name])

variable {configuration : Configuration} {workspace after : Workspace} {bytes : Text.Bytes}
variable {suffix : String} {name : FileName}
variable {source output : Path} {location : Location} {file : WrittenFile}

/-! ## The name of a companion -/

/-- **A companion has the name of its source exactly if the suffix is empty, the source is
named as sources are and its name is a text.** -/
theorem companionName_eq_self_iff :
    companionName suffix name = name ↔ IsOwnCompanion suffix name := by
  cases extended : Path.extension? name with
  | none =>
      -- Without an extension the name only grows.
      constructor
      · intro same
        have longer := congrArg (fun name => (FileName.text name).toList.length) same
        simp [text_companionName, companionText, Path.stem_of_extension?_eq_none extended] at longer
      · rintro ⟨-, own, -⟩
        rw [extended] at own
        cases own
  | some extension =>
      constructor
      · intro same
        have spelled : (companionName suffix name).bytes =
            Text.bytesOf ((Path.stem name).text ++ suffix) ++
              FileName.dot :: Text.bytesOf "rs" :=
          Text.bytesOf_append _ ".rs"
        rw [same, Path.bytes_of_extension?_eq_some extended] at spelled
        obtain ⟨front, ending⟩ :=
          Path.append_dot_inj (Path.dot_not_mem_extension extended) (by decide) spelled
        have shown : (Path.stem name).text = (Path.stem name).text ++ suffix := by
          calc (Path.stem name).text
            _ = FileName.text ⟨(Path.stem name).bytes⟩ := rfl
            _ = FileName.text (.ofText ((Path.stem name).text ++ suffix)) :=
                congrArg (fun bytes => FileName.text ⟨bytes⟩) front
            _ = (Path.stem name).text ++ suffix := FileName.text_ofText _
        refine ⟨?_, extended.trans (congrArg (fun bytes => some (FileName.mk bytes)) ending), ?_⟩
        · have texts := congrArg String.toList shown
          rw [String.toList_append] at texts
          exact String.toList_inj.mp (List.self_eq_append_right.mp texts)
        · rw [← same]
          exact FileName.isText_ofText _
      · rintro ⟨rfl, own, isText⟩
        have shown := Path.text_of_extension?_eq_some own
        rw [FileName.text_ofText, String.append_assoc] at shown
        rw [companionName, companionText, String.append_empty]
        exact (congrArg FileName.ofText shown.symm).trans (FileName.isText_iff.mp isText)

/-! ## Where a companion lies -/

theorem exists_liesBeside_of_outputPath (plain : '/' ∉ configuration.outputSuffix.toList)
    (placed : outputPath configuration (.ofBytes bytes) = .ok output) :
    ∃ name, LiesBeside configuration.outputSuffix (.ofBytes bytes) output name ∧
      ' ' ∉ (companionName configuration.outputSuffix name).text.toList := by
  obtain ⟨directory, name, split, clear, joined⟩ := outputPath_eq_ok_iff.mp placed
  have whole := Path.slash_not_mem_of_split? split
  have named : Path.isName (companionName configuration.outputSuffix name) = true :=
    isName_of_isCompanionName (isCompanionName_companionName _ _)
  rw [ofText_companionText plain whole] at joined
  rw [← text_companionName] at clear
  refine ⟨name, ⟨⟨directory, split, ?_⟩, fun workspace location located => ?_⟩, clear⟩
  · rw [joined]
    exact Path.split?_join_of_ofBytes split named
  · obtain ⟨parent, same, -, beside⟩ := exists_parent_of_locate? split located
    exact ⟨parent, same, joined ▸ beside _ named⟩

namespace LiesBeside

variable (beside : LiesBeside suffix source output name)

include beside

/-- Under another name the companion is another path, which leads to another place. -/
theorem ne_of_not_isOwnCompanion (apart : ¬IsOwnCompanion suffix name) :
    output ≠ source ∧ ∀ (workspace : Workspace) (location : Location),
      workspace.locate? source = some location → workspace.locate? output ≠ some location := by
  have names : companionName suffix name ≠ name := mt companionName_eq_self_iff.mp apart
  constructor
  · rintro rfl
    obtain ⟨directory, own, companion⟩ := beside.split
    rw [own] at companion
    exact names (Prod.mk.inj (Option.some.inj companion)).2.symm
  · intro workspace location located same
    obtain ⟨parent, rfl, leads⟩ := beside.leads workspace location located
    rw [leads] at same
    exact names (List.singleton_inj.mp (List.append_inj' (Option.some.inj same) rfl).2)

/-- Under its own name the companion leads where the source leads. -/
theorem locate?_of_isOwnCompanion (own : IsOwnCompanion suffix name)
    (located : workspace.locate? source = some location) :
    workspace.locate? output = some location := by
  obtain ⟨parent, rfl, leads⟩ := beside.leads workspace location located
  rwa [companionName_eq_self_iff.mpr own] at leads

end LiesBeside

/-! ## What writing it does to the source -/

/-- A text stands where it was written. -/
theorem text?_of_write_of_locate? {content : String}
    (written : workspace.write output content = .ok after)
    (same : workspace.locate? source = workspace.locate? output) :
    after.text? source = some content := by
  have places := Workspace.samePlaces_of_write written
  obtain ⟨place, leads, -, rfl⟩ := Workspace.write_eq_ok_iff.mp written
  rw [Workspace.text?, places.locate?, same, leads, Option.bind_some]
  refine textAt?_of_content? ?_
  rw [FileTree.content?_write, if_pos rfl]

/-- A companion starts with a comment. -/
theorem head?_of_render {companion : Rendered}
    (rendered : render configuration workspace source = .ok companion) :
    companion.text.toList.head? = some '/' := by
  obtain ⟨output, text, declarations, -, -, -, rfl⟩ := render_eq_ok_iff.mp rendered
  dsimp only
  rw [Companion.write, Companion.lines, Companion.header, List.cons_append,
    Companion.toList_text_cons, String.toList_append, String.toList_append, List.append_assoc,
    List.append_assoc]
  rfl

/-- The companion of a source is written to the output path, and to no other. -/
theorem exists_write_of_generateFile (placed : outputPath configuration source = .ok output)
    (generated : generateFile configuration workspace source = .ok (file, after)) :
    ∃ companion, render configuration workspace source = .ok companion ∧
      workspace.write output companion.text = .ok after ∧ file.output = output := by
  obtain ⟨companion, rendered, written, rfl⟩ := generateFile_eq_ok_iff.mp generated
  have same := (source_and_output_of_render rendered).2
  rw [placed] at same
  obtain rfl := Except.ok.inj same
  exact ⟨companion, rendered, written, rfl⟩

/-- A source that has a companion leads somewhere. -/
theorem exists_locate?_of_render {companion : Rendered}
    (rendered : render configuration workspace source = .ok companion) :
    ∃ location, workspace.locate? source = some location := by
  obtain ⟨parent, name, -, located⟩ := exists_parent_of_render rendered
  exact ⟨_, located⟩

/-- **A companion lies beside its source, and replaces it only as its own companion.** Under
every accepted suffix, the path of a companion is the directory of the source with the stem,
the suffix and the extension of sources as the name, in which there is no blank. If the
suffix is not empty, or the source has another extension or a name that is no text, this is
another path than the source, it leads to another place, and the source keeps its text when
the companion is written. Otherwise it leads to the source, which then holds the
companion. -/
theorem companion_beside_source
    (accepted : Configuration.checkSuffix configuration.outputSuffix = .ok ())
    (placed : outputPath configuration (.ofBytes bytes) = .ok output) :
    ∃ name, LiesBeside configuration.outputSuffix (.ofBytes bytes) output name ∧
      ' ' ∉ (companionName configuration.outputSuffix name).text.toList ∧
      (∀ workspace file after,
        generateFile configuration workspace (.ofBytes bytes) = .ok (file, after) →
          file.output = output) ∧
      (¬IsOwnCompanion configuration.outputSuffix name →
        output ≠ .ofBytes bytes ∧
        (∀ (workspace : Workspace) location, workspace.locate? (.ofBytes bytes) = some location →
          workspace.locate? output ≠ some location) ∧
        ∀ workspace file after,
          generateFile configuration workspace (.ofBytes bytes) = .ok (file, after) →
            after.text? (.ofBytes bytes) = workspace.text? (.ofBytes bytes)) ∧
      (IsOwnCompanion configuration.outputSuffix name →
        (∀ (workspace : Workspace) location, workspace.locate? (.ofBytes bytes) = some location →
          workspace.locate? output = some location) ∧
        ∀ workspace file after,
          generateFile configuration workspace (.ofBytes bytes) = .ok (file, after) →
            ∃ companion, render configuration workspace (.ofBytes bytes) = .ok companion ∧
              after.text? (.ofBytes bytes) = some companion.text) := by
  obtain ⟨name, beside, clear⟩ :=
    exists_liesBeside_of_outputPath (slash_not_mem_of_checkSuffix accepted) placed
  refine ⟨name, beside, clear, fun workspace file after generated => ?_,
    fun apart => ?_, fun own => ?_⟩
  · obtain ⟨-, -, -, same⟩ := exists_write_of_generateFile placed generated
    exact same
  · obtain ⟨paths, places⟩ := beside.ne_of_not_isOwnCompanion apart
    refine ⟨paths, places, fun workspace file after generated => ?_⟩
    obtain ⟨companion, -, written, -⟩ := exists_write_of_generateFile placed generated
    exact text?_of_write written (places workspace)
  · refine ⟨fun workspace location => beside.locate?_of_isOwnCompanion own,
      fun workspace file after generated => ?_⟩
    obtain ⟨companion, rendered, written, -⟩ := exists_write_of_generateFile placed generated
    obtain ⟨location, located⟩ := exists_locate?_of_render rendered
    have leads := beside.locate?_of_isOwnCompanion own located
    exact ⟨companion, rendered, text?_of_write_of_locate? written (located.trans leads.symm)⟩

/-! ## A source with one family -/

theorem split?_oneSource :
    Path.split? (.ofText "src/a.rs") = some (Path.ofText "src", FileName.ofText "a.rs") := by
  decide +kernel

/-- The companion of the source is rendered with any accepted suffix. -/
theorem exists_render_of_accepted
    (accepted : Configuration.checkSuffix configuration.outputSuffix = .ok ())
    (types : configuration.types = []) :
    ∃ companion, render configuration oneSource (.ofText "src/a.rs") = .ok companion := by
  obtain ⟨scanned, filled⟩ := families_eq_ok_iff.mp (families_oneFamily "src/a.rs")
  have declared := families_eq_ok_iff.mpr
    ⟨Declaration.scan_of_scan types (Path.ofText "src/a.rs").text scanned, filled⟩
  exact ⟨_, render_eq_ok_iff.mpr
    ⟨_, _, _, outputPath_of_split? accepted split?_oneSource (by decide +kernel), text?_oneSource,
      declared, rfl⟩⟩

/-- It is written where it lies, if no directory is in the way. -/
theorem exists_generateFile_of_accepted
    (accepted : Configuration.checkSuffix configuration.outputSuffix = .ok ())
    (types : configuration.types = []) {location : Location}
    (placed : outputPath configuration (.ofText "src/a.rs") = .ok output)
    (located : oneSource.locate? output = some location)
    (free : oneSource.tree.isDirectory location = false) :
    ∃ companion after, render configuration oneSource (.ofText "src/a.rs") = .ok companion ∧
      oneSource.write output companion.text = .ok after ∧
      generateFile configuration oneSource (.ofText "src/a.rs") =
        .ok (companion.written, after) := by
  obtain ⟨companion, rendered⟩ := exists_render_of_accepted accepted types
  have same := (source_and_output_of_render rendered).2
  rw [placed] at same
  obtain rfl := Except.ok.inj same
  have written := Workspace.write_of_locate? located free companion.text
  exact ⟨companion, _, rendered, written,
    generateFile_eq_ok_iff.mpr ⟨companion, rendered, written, rfl⟩⟩

/-- Under the suffix that is configured by default the source keeps its text. -/
theorem companion_beside_oneSource :
    Configuration.checkSuffix Configuration.default.outputSuffix = .ok () ∧
    outputPath .default (.ofText "src/a.rs") = .ok (.ofText "src/a_enums.rs") ∧
    ∃ file after, generateFile .default oneSource (.ofText "src/a.rs") = .ok (file, after) ∧
      file.output = .ofText "src/a_enums.rs" ∧
      after.text? (.ofText "src/a.rs") = some oneFamily := by
  have accepted : Configuration.checkSuffix Configuration.default.outputSuffix = .ok () := rfl
  have placed := outputPath_oneSource
  have located : oneSource.locate? (.ofText "src/a_enums.rs") =
      some (["src", "a_enums.rs"] : Location) := by
    decide +kernel
  obtain ⟨companion, after, -, -, generated⟩ :=
    exists_generateFile_of_accepted accepted rfl placed located (by decide +kernel)
  obtain ⟨name, -, -, outputs, keeps, -⟩ := companion_beside_source accepted placed
  have apart : ¬IsOwnCompanion Configuration.default.outputSuffix name := fun own =>
    absurd own.1 (by decide)
  exact ⟨accepted, placed, companion.written, after, generated, outputs _ _ _ generated,
    ((keeps apart).2.2 _ _ _ generated).trans text?_oneSource⟩

/-- The empty suffix is accepted, and a companion then takes the place of its source. -/
theorem source_replaced_of_emptySuffix :
    let configuration := { Configuration.default with outputSuffix := "" }
    Configuration.checkSuffix configuration.outputSuffix = .ok () ∧
    outputPath configuration (.ofText "src/a.rs") = .ok (.ofText "src/a.rs") ∧
    oneSource.text? (.ofText "src/a.rs") = some oneFamily ∧
    ∃ file after, generateFile configuration oneSource (.ofText "src/a.rs") = .ok (file, after) ∧
      after.text? (.ofText "src/a.rs") ≠ some oneFamily := by
  intro configuration
  have accepted : Configuration.checkSuffix configuration.outputSuffix = .ok () := rfl
  have joined : (Path.ofText "src").join (.ofText (companionText "" "a.rs")) =
      .ofText "src/a.rs" := by
    decide +kernel
  have placed : outputPath configuration (.ofText "src/a.rs") = .ok (.ofText "src/a.rs") :=
    (outputPath_of_split? accepted split?_oneSource (by decide +kernel)).trans
      (congrArg Except.ok joined)
  obtain ⟨companion, after, rendered, written, generated⟩ :=
    exists_generateFile_of_accepted accepted rfl placed locate?_oneSource (by decide +kernel)
  refine ⟨accepted, placed, text?_oneSource, companion.written, after, generated, ?_⟩
  rw [text?_of_write_of_locate? written rfl]
  intro same
  have first := head?_of_render rendered
  rw [Option.some.inj same] at first
  exact absurd first (by decide)

end NamedConstants.Generation
