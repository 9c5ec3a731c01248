import NamedConstants.Proofs.Generation.Names

/-!
# Collecting sources

Collecting fails at the first input where there is nothing, and in no other way
(`sources_eq_error_iff`). Otherwise the sources of the inputs are put one behind
the other. What is found in a directory has a name of the file tree, and it is
the name of a source (`exists_name_of_mem_sources`).

Only files that are named as sources matter for what is found. So the same
sources are found in the same order in a workspace that has the same directories
and the same files of such names (`Undisturbed`, `sources_eq_of_undisturbed`),
and writing files that are named as companions leads to such a workspace
(`undisturbed_of_write`).
-/

set_option autoImplicit false

namespace NamedConstants.Generation

variable {configuration : Configuration} {workspace : Workspace}

/-- An input stands for no sources exactly where there is nothing. -/
theorem sourcesOf_eq_error_iff {input : Path} {failure : Failure} :
    sourcesOf configuration workspace input = .error failure ↔
      workspace.isThere input = false ∧ failure = .invalidPath input.text := by
  unfold sourcesOf Workspace.isThere Workspace.isFile Workspace.isDirectory
  cases workspace.locate? input with
  | none => simp [eq_comm]
  | some location =>
      dsimp only
      cases file : workspace.tree.isFile location with
      | true => simp [file]
      | false =>
          cases directory : workspace.tree.isDirectory location with
          | true => simp [file, directory]
          | false => simp [file, directory, eq_comm]

theorem sources_cons_eq_ok_iff {input : Path} {inputs found : List Path} :
    sources configuration workspace (input :: inputs) = .ok found ↔
      ∃ first others, sourcesOf configuration workspace input = .ok first ∧
        sources configuration workspace inputs = .ok others ∧ found = first ++ others := by
  simp only [sources, bind_eq_ok_iff, pure, Except.pure, Except.ok.injEq, exists_and_left,
    @eq_comm _ found]

theorem sources_cons_eq_error_iff {input : Path} {inputs : List Path} {failure : Failure} :
    sources configuration workspace (input :: inputs) = .error failure ↔
      sourcesOf configuration workspace input = .error failure ∨
        (∃ first, sourcesOf configuration workspace input = .ok first) ∧
          sources configuration workspace inputs = .error failure := by
  rw [sources]
  cases sourcesOf configuration workspace input with
  | error reason => simp [bind, Except.bind]
  | ok first =>
      cases sources configuration workspace inputs with
      | error reason => simp [bind, Except.bind]
      | ok others => simp [bind, Except.bind, pure, Except.pure]

/-- An input stands for sources exactly where there is something. -/
theorem exists_sourcesOf_eq_ok_iff {input : Path} :
    (∃ found, sourcesOf configuration workspace input = .ok found) ↔
      workspace.isThere input = true := by
  cases outcome : sourcesOf configuration workspace input with
  | error failure =>
      have missing := (sourcesOf_eq_error_iff.mp outcome).1
      simp [missing]
  | ok found =>
      refine ⟨fun _ => ?_, fun _ => ⟨found, rfl⟩⟩
      cases there : workspace.isThere input with
      | true => rfl
      | false =>
          have failed : sourcesOf configuration workspace input = .error (.invalidPath input.text) :=
            sourcesOf_eq_error_iff.mpr ⟨there, rfl⟩
          rw [failed] at outcome
          cases outcome

/-- **Collecting fails exactly at the first input where there is nothing.** -/
theorem sources_eq_error_iff {inputs : List Path} {failure : Failure} :
    sources configuration workspace inputs = .error failure ↔
      ∃ before input after, inputs = before ++ input :: after ∧
        (∀ other ∈ before, workspace.isThere other = true) ∧
        workspace.isThere input = false ∧ failure = .invalidPath input.text := by
  induction inputs with
  | nil => simp [sources]
  | cons input inputs ih =>
      rw [sources_cons_eq_error_iff, sourcesOf_eq_error_iff, exists_sourcesOf_eq_ok_iff, ih]
      constructor
      · rintro (⟨missing, reported⟩ | ⟨there, before, next, after, rfl, earlier, missing, reported⟩)
        · exact ⟨[], input, inputs, rfl, by simp, missing, reported⟩
        · exact ⟨input :: before, next, after, rfl, List.forall_mem_cons.mpr ⟨there, earlier⟩,
            missing, reported⟩
      · rintro ⟨before, next, after, split, earlier, missing, reported⟩
        cases before with
        | nil =>
            obtain ⟨rfl, rfl⟩ := List.cons.inj split
            exact Or.inl ⟨missing, reported⟩
        | cons first before =>
            obtain ⟨rfl, rfl⟩ := List.cons.inj split
            obtain ⟨there, earlier⟩ := List.forall_mem_cons.mp earlier
            exact Or.inr ⟨there, before, next, after, rfl, earlier, missing, reported⟩

/-! ## What is found in a directory -/

theorem exists_sourcesOf_of_mem {inputs found : List Path} {source : Path}
    (collected : sources configuration workspace inputs = .ok found) (listed : source ∈ found) :
    ∃ input ∈ inputs, ∃ first, sourcesOf configuration workspace input = .ok first ∧
      source ∈ first := by
  induction inputs generalizing found with
  | nil =>
      cases collected
      cases listed
  | cons input inputs ih =>
      obtain ⟨first, others, own, rest, rfl⟩ := sources_cons_eq_ok_iff.mp collected
      rcases List.mem_append.mp listed with here | there
      · exact ⟨input, List.mem_cons_self, first, own, here⟩
      · obtain ⟨next, later, sources⟩ := ih rest there
        exact ⟨next, List.mem_cons_of_mem input later, sources⟩

theorem mem_filesBelow {tree : FileTree} {directory location : Location} :
    location ∈ tree.filesBelow directory ↔
      location ∈ tree.files.map Prod.fst ∧ FileTree.isBelow directory location = true := by
  rw [FileTree.filesBelow, List.mem_mergeSort, List.mem_filter]

/-- The files of a directory are sorted. -/
theorem pairwise_filesBelow (tree : FileTree) (directory : Location) :
    (tree.filesBelow directory).Pairwise fun one other =>
      ¬other.map FileName.bytes < one.map FileName.bytes := by
  have sorted := @List.pairwise_mergeSort Location
    (fun one other => !decide (other.map FileName.bytes < one.map FileName.bytes))
    (fun first second third one other => ?_) (fun one other => ?_)
    ((tree.files.map Prod.fst).filter (FileTree.isBelow directory))
  · refine sorted.imp fun ordered => ?_
    simpa using ordered
  · simp only [Bool.not_eq_true', decide_eq_false_iff_not, List.not_lt] at one other ⊢
    exact List.le_trans one other
  · simp only [Bool.or_eq_true, Bool.not_eq_true', decide_eq_false_iff_not, List.not_lt]
    exact List.le_total _ _

/-- An input that is no file stands for the sources below it. -/
theorem sourcesOf_eq_ok_iff {input : Path} {found : List Path}
    (noFile : workspace.isFile input = false) :
    sourcesOf configuration workspace input = .ok found ↔
      ∃ directory, workspace.locate? input = some directory ∧
        workspace.tree.isDirectory directory = true ∧
        found = ((workspace.tree.filesBelow directory).filter
          (isSource workspace configuration.outputSuffix)).map (pathBelow input directory) := by
  unfold Workspace.isFile at noFile
  unfold sourcesOf
  cases located : workspace.locate? input with
  | none => simp
  | some directory =>
      have free : workspace.tree.isFile directory = false := by simpa [located] using noFile
      dsimp only
      rw [free, if_neg Bool.false_ne_true]
      cases there : workspace.tree.isDirectory directory with
      | false =>
          rw [if_neg Bool.false_ne_true]
          constructor
          · rintro ⟨⟩
          · rintro ⟨_, ⟨⟩, present, -⟩
            rw [there] at present
            cases present
      | true =>
          rw [if_pos rfl]
          constructor
          · rintro ⟨⟩
            exact ⟨directory, rfl, there, rfl⟩
          · rintro ⟨_, ⟨⟩, -, rfl⟩
            rfl

/-- The path of a file ends as its location does. -/
theorem getLast?_pathBelow {input : Path} {directory location : Location} {name : FileName}
    (below : FileTree.isBelow directory location = true)
    (ends : location.getLast? = some name) :
    (pathBelow input directory location).pieces.getLast? = some name := by
  obtain ⟨⟨rest, rfl⟩, apart⟩ := FileTree.isBelow_iff.mp below
  refine Path.getLast?_join input ?_
  rw [List.drop_left]
  cases last : rest.getLast? with
  | none =>
      rw [List.getLast?_eq_none_iff] at last
      rw [last, List.append_nil] at apart
      exact absurd rfl apart
  | some own => rwa [List.getLast?_append, last, Option.some_or] at ends

/-- **What is found below inputs that are no files is named as a source.** -/
theorem exists_name_of_mem_sources {inputs found : List Path} {source : Path}
    (noFiles : ∀ input ∈ inputs, workspace.isFile input = false)
    (collected : sources configuration workspace inputs = .ok found) (listed : source ∈ found) :
    ∃ name, source.pieces.getLast? = some name ∧
      isSourceName configuration.outputSuffix name = true ∧
      ∃ location ∈ workspace.tree.files.map Prod.fst, name ∈ location := by
  obtain ⟨input, given, first, own, here⟩ := exists_sourcesOf_of_mem collected listed
  obtain ⟨directory, -, -, rfl⟩ := (sourcesOf_eq_ok_iff (noFiles input given)).mp own
  obtain ⟨location, counted, rfl⟩ := List.mem_map.mp here
  obtain ⟨below, counts⟩ := List.mem_filter.mp counted
  obtain ⟨held, under⟩ := mem_filesBelow.mp below
  rw [isSource, Bool.and_eq_true, Option.any_eq_true] at counts
  obtain ⟨⟨name, ends, named⟩, -⟩ := counts
  exact ⟨name, getLast?_pathBelow under ends, named, location, held, List.mem_of_getLast? ends⟩

/-! ## Workspaces with the same sources -/

/-- The location ends in the name of a source. -/
def endsAsSource (suffix : String) (location : Location) : Bool :=
  location.getLast?.any (isSourceName suffix)

/-- The directories of two workspaces are the same and so are their files, but
for files that are not named as sources. -/
structure Undisturbed (suffix : String) (before after : Workspace) : Prop where
  places : before.SamePlaces after
  /-- Files that are named as sources hold what they held. -/
  content : ∀ location, endsAsSource suffix location = true →
    after.tree.content? location = before.tree.content? location
  /-- No directory has become a file. -/
  directories : ∀ location, before.tree.isDirectory location = true →
    after.tree.content? location = before.tree.content? location
  /-- What is new is not named as a source. -/
  locations : ∃ added, after.tree.files.map Prod.fst = before.tree.files.map Prod.fst ++ added ∧
    ∀ location ∈ added, endsAsSource suffix location = false

namespace Undisturbed

variable {suffix : String}

theorem refl (workspace : Workspace) : Undisturbed suffix workspace workspace :=
  ⟨.refl workspace, fun _ _ => rfl, fun _ _ => rfl, [], (List.append_nil _).symm, by simp⟩

theorem trans {first second third : Workspace} (one : Undisturbed suffix first second)
    (other : Undisturbed suffix second third) : Undisturbed suffix first third := by
  obtain ⟨added, split, new⟩ := one.locations
  obtain ⟨added', split', new'⟩ := other.locations
  refine ⟨one.places.trans other.places, fun location source => ?_, fun location directory => ?_,
    added ++ added', by rw [split', split, List.append_assoc], fun location listed => ?_⟩
  · exact (other.content location source).trans (one.content location source)
  · exact (other.directories location ((one.places.isDirectory location).trans directory)).trans
      (one.directories location directory)
  · rcases List.mem_append.mp listed with early | late
    · exact new location early
    · exact new' location late

end Undisturbed

theorem endsAsSource_concat {suffix : String} {name : FileName} (parent : Location) :
    endsAsSource suffix (parent ++ [name]) = isSourceName suffix name := by
  rw [endsAsSource, List.getLast?_concat, Option.any_some]

/-- **Writing a companion disturbs no sources.** -/
theorem undisturbed_of_write {suffix text : String} {last : FileName} {output : Path}
    {after : Workspace}
    (ends : output.pieces.getLast? = some last) (companion : isCompanionName suffix last = true)
    (written : workspace.write output text = .ok after) :
    Undisturbed suffix workspace after := by
  have places := Workspace.samePlaces_of_write written
  obtain ⟨parent, name, own, -, -, directory, free, rfl⟩ := Workspace.exists_of_write written
  rw [ends] at own
  cases own
  have noSource : endsAsSource suffix (parent ++ [last]) = false := by
    rw [endsAsSource_concat, isSourceName, companion, Bool.not_true, Bool.and_false]
  refine ⟨places, fun location source => ?_, fun location there => ?_, _,
    FileTree.locations_write _ _ _, fun location listed => ?_⟩
  · rw [FileTree.content?_write, if_neg]
    rintro rfl
    rw [noSource] at source
    cases source
  · rw [FileTree.content?_write, if_neg]
    rintro rfl
    rw [free] at there
    cases there
  · split at listed
    · cases listed
    · rw [List.mem_singleton.mp listed, noSource]

section Again

variable {before after : Workspace}

theorem isSource_eq_of_undisturbed {suffix : String} (same : Undisturbed suffix before after) :
    isSource after suffix = isSource before suffix := by
  funext location
  rw [isSource, isSource]
  cases source : endsAsSource suffix location with
  | false =>
      rw [endsAsSource] at source
      rw [source, Bool.false_and, Bool.false_and]
  | true => rw [Workspace.textAt?, Workspace.textAt?, same.content location source]

/-- Both sides hold the same locations, and both are sorted. -/
theorem filter_filesBelow_eq {tree tree' : FileTree} {added : List Location}
    {counts : Location → Bool} (directory : Location)
    (split : tree'.files.map Prod.fst = tree.files.map Prod.fst ++ added)
    (new : ∀ location ∈ added, counts location = false) :
    (tree'.filesBelow directory).filter counts = (tree.filesBelow directory).filter counts := by
  have dropped : (added.filter (FileTree.isBelow directory)).filter counts = [] := by
    rw [List.filter_eq_nil_iff]
    intro location listed
    rw [new location (List.mem_filter.mp listed).1]
    exact Bool.false_ne_true
  have listed (tree : FileTree) : List.Perm ((tree.filesBelow directory).filter counts)
      (((tree.files.map Prod.fst).filter (FileTree.isBelow directory)).filter counts) :=
    (List.mergeSort_perm _ _).filter counts
  have same (one other : Location) (below : ¬other.map FileName.bytes < one.map FileName.bytes)
      (above : ¬one.map FileName.bytes < other.map FileName.bytes) : one = other :=
    (List.map_inj_right fun _ _ => congrArg FileName.mk).mp
      (List.le_antisymm (List.not_lt.mp below) (List.not_lt.mp above))
  refine List.Perm.eq_of_pairwise (fun one other _ _ => same one other)
    ((pairwise_filesBelow tree' directory).filter counts)
    ((pairwise_filesBelow tree directory).filter counts) ?_
  refine (listed tree').trans (.trans ?_ (listed tree).symm)
  rw [split, List.filter_append, List.filter_append, dropped, List.append_nil]

/-- An input that is no file stands for the same sources, and is no file still. -/
theorem sourcesOf_eq_of_undisturbed {input : Path} {found : List Path}
    (same : Undisturbed configuration.outputSuffix before after)
    (noFile : before.isFile input = false)
    (own : sourcesOf configuration before input = .ok found) :
    after.isFile input = false ∧ sourcesOf configuration after input = .ok found := by
  obtain ⟨directory, located, there, rfl⟩ := (sourcesOf_eq_ok_iff noFile).mp own
  have located' : after.locate? input = some directory :=
    (same.places.locate? input).trans located
  have noFile' : after.isFile input = false := by
    unfold Workspace.isFile at noFile ⊢
    rw [located, Option.any_some] at noFile
    rw [located', Option.any_some, FileTree.isFile, same.directories directory there]
    exact noFile
  refine ⟨noFile', (sourcesOf_eq_ok_iff noFile').mpr
    ⟨directory, located', (same.places.isDirectory directory).trans there, ?_⟩⟩
  obtain ⟨added, split, new⟩ := same.locations
  rw [isSource_eq_of_undisturbed same, filter_filesBelow_eq directory split]
  intro location listed
  rw [isSource, ← endsAsSource, new location listed, Bool.false_and]

/-- **The same sources are found in the same order.** -/
theorem sources_eq_of_undisturbed {inputs found : List Path}
    (same : Undisturbed configuration.outputSuffix before after)
    (noFiles : ∀ input ∈ inputs, before.isFile input = false)
    (collected : sources configuration before inputs = .ok found) :
    sources configuration after inputs = .ok found := by
  induction inputs generalizing found with
  | nil => exact collected
  | cons input inputs ih =>
      obtain ⟨first, others, own, rest, rfl⟩ := sources_cons_eq_ok_iff.mp collected
      obtain ⟨noFile, noFiles⟩ := List.forall_mem_cons.mp noFiles
      exact sources_cons_eq_ok_iff.mpr
        ⟨first, others, (sourcesOf_eq_of_undisturbed same noFile own).2, ih noFiles rest, rfl⟩

/-- A path that ends in the name of a source leads to the same text. -/
theorem text?_eq_of_undisturbed {suffix : String} {name : FileName} {source : Path}
    (same : Undisturbed suffix before after) (ends : source.pieces.getLast? = some name)
    (named : isSourceName suffix name = true) : after.text? source = before.text? source := by
  unfold Workspace.text?
  rw [same.places.locate?]
  cases located : before.locate? source with
  | none => rfl
  | some location =>
      obtain ⟨parent, rfl⟩ :=
        Workspace.exists_of_locate?_of_isName ends (isName_of_isSourceName named) located
      rw [Option.bind_some, Option.bind_some, Workspace.textAt?, Workspace.textAt?, same.content]
      rw [endsAsSource_concat, named]

end Again

end NamedConstants.Generation
