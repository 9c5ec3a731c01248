import NamedConstants.Generation.Sources
import NamedConstants.Proofs.FileTree.Workspace
import NamedConstants.Proofs.Path

/-!
# Names of sources and names of companions

A companion is named as no source is: its name ends in the suffix and the
extension, and such a name is passed over when sources are collected. The name of
a companion is made of what is shown of its source, and the extension of a source
is cut off before the suffix is put behind. So two sources have companions of one
name exactly if they are shown alike (`companionName_eq_companionName_iff`).

The suffix must not hold a slash. Then the last piece of an output path is the
name of a companion (`exists_companion_of_outputPath`), and the output path leads
to this name in the directory in which the source is (`locate?_of_outputPath`).
-/

set_option autoImplicit false

namespace NamedConstants.Generation

variable {suffix : String}

/-! ## Suffixes -/

/-- A suffix that is not refused holds nothing that is. -/
theorem not_mem_of_checkSuffix (accepted : Configuration.checkSuffix suffix = .ok ()) {c : Char}
    (refused : Configuration.isRefusedInSuffix c = true) : c ∉ suffix.toList := by
  intro listed
  rw [Configuration.checkSuffix, if_pos (List.any_eq_true.mpr ⟨c, listed, refused⟩)] at accepted
  cases accepted

theorem slash_not_mem_of_checkSuffix (accepted : Configuration.checkSuffix suffix = .ok ()) :
    '/' ∉ suffix.toList :=
  not_mem_of_checkSuffix accepted rfl

theorem slash_not_mem_ending (plain : '/' ∉ suffix.toList) :
    '/' ∉ (suffix ++ ".rs").toList := by
  rw [String.toList_append, List.mem_append]
  rintro (inside | behind)
  · exact plain inside
  · exact absurd behind (by decide)

/-! ## Names -/

variable {name other : FileName}

theorem isCompanionName_iff :
    isCompanionName suffix name = true ↔ (suffix ++ ".rs").toList <:+ name.text.toList :=
  List.isSuffixOf_iff_suffix

theorem text_companionName (suffix : String) (name : FileName) :
    (companionName suffix name).text = companionText suffix name :=
  FileName.text_ofText _

theorem isCompanionName_companionName (suffix : String) (name : FileName) :
    isCompanionName suffix (companionName suffix name) = true := by
  rw [isCompanionName_iff, text_companionName, companionText, String.append_assoc,
    String.toList_append (s := (Path.stem name).text)]
  exact List.suffix_append _ _

/-- The name of a companion has no characters but those of the suffix and the source,
and of the extension. -/
theorem not_mem_companionText {c : Char} (ending : c ∉ suffix.toList)
    (own : c ∉ name.text.toList) (apart : c ∉ ".rs".toList) :
    c ∉ (companionText suffix name).toList := by
  rw [companionText, String.toList_append, String.toList_append, List.mem_append, List.mem_append]
  rintro ((front | middle) | behind)
  · exact own (Path.mem_of_mem_text_stem front)
  · exact ending middle
  · exact apart behind

theorem not_isCompanionName_of_isSourceName (source : isSourceName suffix name = true) :
    isCompanionName suffix name = false := by
  simp only [isSourceName, Bool.and_eq_true, Bool.not_eq_true'] at source
  exact source.2

/-- What is shown to end in the extension of sources is a name. -/
theorem isName_of_suffix (ends : ".rs".toList <:+ name.text.toList) : Path.isName name = true := by
  have long := ends.length_le
  have apart (text : String) (short : text.toList.length < 3) :
      (name == FileName.ofText text) = false := by
    refine beq_false_of_ne ?_
    rintro rfl
    rw [FileName.text_ofText] at long
    exact absurd long (Nat.not_le.mpr short)
  simp only [Path.isName, Path.isIdle, bne, apart "" (by decide), apart "." (by decide),
    apart ".." (by decide)]
  rfl

theorem isName_of_isCompanionName (companion : isCompanionName suffix name = true) :
    Path.isName name = true := by
  refine isName_of_suffix (List.IsSuffix.trans ?_ (isCompanionName_iff.mp companion))
  rw [String.toList_append]
  exact List.suffix_append _ _

/-- The name of a source is shown as its stem and the extension. -/
theorem text_of_isSourceName (source : isSourceName suffix name = true) :
    name.text = (Path.stem name).text ++ ".rs" := by
  simp only [isSourceName, Bool.and_eq_true, beq_iff_eq] at source
  have split := Path.text_of_extension?_eq_some source.1
  rw [FileName.text_ofText, String.append_assoc] at split
  exact split

theorem isName_of_isSourceName (source : isSourceName suffix name = true) :
    Path.isName name = true := by
  refine isName_of_suffix ?_
  rw [text_of_isSourceName source, String.toList_append]
  exact List.suffix_append _ _

/-- **Sources have companions of one name exactly if they are shown alike.** -/
theorem companionName_eq_companionName_iff (source : isSourceName suffix name = true)
    (source' : isSourceName suffix other = true) :
    companionName suffix name = companionName suffix other ↔ name.text = other.text := by
  rw [text_of_isSourceName source, text_of_isSourceName source', companionName, companionName,
    FileName.ofText_inj]
  simp [companionText]

/-! ## Output paths -/

variable {configuration : Configuration} {source output : Path}

/-- **Where the companion of a source goes.** It goes behind the directory of the
source, unless there is a blank in its name. -/
theorem outputPath_eq_ok_iff :
    outputPath configuration source = .ok output ↔
      ∃ directory name, source.split? = some (directory, name) ∧
        ' ' ∉ (companionText configuration.outputSuffix name).toList ∧
        output = directory.join (.ofText (companionText configuration.outputSuffix name)) := by
  unfold outputPath
  cases source.split? with
  | none => simp
  | some found =>
      obtain ⟨directory, name⟩ := found
      dsimp only
      split
      · rename_i blank
        constructor
        · rintro ⟨⟩
        · rintro ⟨_, _, ⟨⟩, clear, -⟩
          exact absurd (List.contains_iff_mem.mp blank) clear
      · rename_i clear
        constructor
        · rintro ⟨⟩
          exact ⟨directory, name, rfl, mt List.contains_iff_mem.mpr clear, rfl⟩
        · rintro ⟨_, _, ⟨⟩, -, rfl⟩
          rfl

/-- An output path is the name of the companion behind the directory of the
source. -/
theorem exists_of_outputPath (placed : outputPath configuration source = .ok output) :
    ∃ directory name, source.split? = some (directory, name) ∧
      output = directory.join (.ofText (companionText configuration.outputSuffix name)) := by
  obtain ⟨directory, name, split, -, joined⟩ := outputPath_eq_ok_iff.mp placed
  exact ⟨directory, name, split, joined⟩

/-- The name of a companion is a path of one piece. -/
theorem ofText_companionText (plain : '/' ∉ suffix.toList) (whole : FileName.slash ∉ name.bytes) :
    Path.ofText (companionText suffix name) = ⟨false, [companionName suffix name]⟩ :=
  Path.ofText_of_not_mem
    (not_mem_companionText plain (mt FileName.slash_mem_text_iff.mp whole) (by decide))

/-- The last piece of an output path is the name of a companion. -/
theorem exists_companion_of_outputPath (plain : '/' ∉ configuration.outputSuffix.toList)
    (placed : outputPath configuration source = .ok output) :
    ∃ last, output.pieces.getLast? = some last ∧
      isCompanionName configuration.outputSuffix last = true := by
  obtain ⟨directory, name, -, rfl⟩ := exists_of_outputPath placed
  obtain ⟨last, ends, companion⟩ :=
    Path.getLast?_pieces_ofText (Path.stem name).text (slash_not_mem_ending plain)
  refine ⟨last, ?_, isCompanionName_iff.mpr companion⟩
  rw [companionText, String.append_assoc]
  exact Path.getLast?_join directory ends

/-- The output path of a source differs from the source in the name, but for
idle pieces. -/
theorem exists_idle_of_outputPath (plain : '/' ∉ configuration.outputSuffix.toList)
    (ends : source.pieces.getLast? = some name)
    (named : isSourceName configuration.outputSuffix name = true)
    (whole : FileName.slash ∉ name.bytes) (placed : outputPath configuration source = .ok output) :
    ∃ kept idles, source.pieces = kept ++ idles ++ [name] ∧
      (∀ piece ∈ idles, Path.isIdle piece = true) ∧
      output = ⟨source.isAbsolute,
        kept ++ [companionName configuration.outputSuffix name]⟩ := by
  obtain ⟨directory, found, split, rfl⟩ := exists_of_outputPath placed
  rw [Path.split?_of_isName ends (isName_of_isSourceName named)] at split
  cases split
  obtain ⟨absolute, trimmed, cut, idle⟩ :=
    Path.exists_idle_of_trimmed ⟨source.isAbsolute, source.pieces.dropLast⟩
  obtain ⟨kept, joined, cut', idle', join⟩ := Path.exists_idle_of_join
    (Path.trimmed ⟨source.isAbsolute, source.pieces.dropLast⟩)
    [companionName configuration.outputSuffix name]
  refine ⟨kept, joined ++ trimmed, ?_, ?_, ?_⟩
  · have directory : source.pieces.dropLast = kept ++ (joined ++ trimmed) := by
      rw [← List.append_assoc, ← cut']
      exact cut
    obtain ⟨before, pieces⟩ := List.getLast?_eq_some_iff.mp ends
    rw [← directory, pieces, List.dropLast_concat]
  · intro piece listed
    rcases List.mem_append.mp listed with inner | outer
    · exact idle' piece inner
    · exact idle piece outer
  · rw [ofText_companionText plain whole, join, absolute]

/-- **A companion lies in the directory of its source.** -/
theorem locate?_of_outputPath {workspace : Workspace} {location : Location}
    (plain : '/' ∉ configuration.outputSuffix.toList) (ends : source.pieces.getLast? = some name)
    (named : isSourceName configuration.outputSuffix name = true)
    (whole : FileName.slash ∉ name.bytes) (placed : outputPath configuration source = .ok output)
    (located : workspace.locate? output = some location) :
    ∃ parent, location = parent ++ [companionName configuration.outputSuffix name] ∧
      workspace.locate? source = some (parent ++ [name]) := by
  have spelled := Path.isEmpty_bytes_of_isName ends (isName_of_isSourceName named)
  obtain ⟨kept, idles, pieces, idle, rfl⟩ :=
    exists_idle_of_outputPath plain ends named whole placed
  unfold Workspace.locate? at located ⊢
  split at located
  · cases located
  · rw [spelled, if_neg Bool.false_ne_true, pieces, List.append_assoc, List.foldlM_append]
    rw [List.foldlM_append] at located
    obtain ⟨parent, reached, taken⟩ := Option.bind_eq_some_iff.mp located
    obtain ⟨next, stepped, same⟩ := Option.bind_eq_some_iff.mp taken
    rw [List.foldlM_nil] at same
    cases same
    have directory := (Workspace.step?_cases stepped).1
    have companion := isName_of_isCompanionName
      (isCompanionName_companionName configuration.outputSuffix name)
    rw [Workspace.step?_of_isName companion directory] at stepped
    refine ⟨parent, (Option.some.inj stepped).symm, ?_⟩
    have stays : idles.foldlM (Workspace.step? workspace.tree) parent = some parent :=
      Workspace.foldlM_step?_of_isIdle idle directory
    have start : workspace.start source = workspace.start
        ⟨source.isAbsolute, kept ++ [companionName configuration.outputSuffix name]⟩ := rfl
    rw [start, reached, Option.bind_eq_bind, Option.bind_some, List.foldlM_append, stays,
      Option.bind_eq_bind, Option.bind_some, List.foldlM_cons,
      Workspace.step?_of_isName (isName_of_isSourceName named) directory]
    rfl

end NamedConstants.Generation
