import NamedConstants.FileTree.Workspace
import NamedConstants.Proofs.FileTree.Content
import NamedConstants.Proofs.Result

/-!
# Writing into a workspace

A path leads to a directory, or its last piece names something in a directory
(`locate?_cases`). So a file is written in a directory that is there
(`exists_of_write`), and writing moves no place: every path leads afterwards
where it led before (`SamePlaces`, `samePlaces_of_writeAll`). A list of writes
therefore leads to the tree in which the same files are written at the places
that their paths had from the start (`writeAll_eq_ok_iff`), and it can be done
again without a change (`writeAll_again`).
-/

set_option autoImplicit false

namespace NamedConstants.Workspace

variable {workspace after : Workspace} {path : Path} {location : Location}

/-! ## Where paths lead -/

/-- A step stays among the directories or takes the name of something in one. -/
theorem step?_cases {tree : FileTree} {next : Location} {piece : FileName}
    (taken : step? tree location piece = some next) :
    tree.isDirectory location = true ∧
      (tree.isDirectory next = true ∨ Path.isName piece = true ∧ next = location ++ [piece]) := by
  unfold step? at taken
  split at taken
  · cases taken
  · rename_i notMissing
    have directory : tree.isDirectory location = true := by simpa using notMissing
    refine ⟨directory, ?_⟩
    split at taken
    · exact Or.inl (Option.some.inj taken ▸ directory)
    · rename_i notIdle
      split at taken
      · left
        rw [← Option.some.inj taken]
        exact FileTree.isDirectory_of_prefix directory (List.dropLast_prefix location)
      · rename_i notUp
        right
        refine ⟨?_, (Option.some.inj taken).symm⟩
        simp only [Path.isName, notIdle, bne, notUp]
        rfl

/-- A name is taken as it is in a directory. -/
theorem step?_of_isName {tree : FileTree} {piece : FileName} (named : Path.isName piece = true)
    (directory : tree.isDirectory location = true) :
    step? tree location piece = some (location ++ [piece]) := by
  simp only [Path.isName, Bool.and_eq_true, Bool.not_eq_true', bne_iff_ne, ne_eq] at named
  simp [step?, directory, named.1, named.2]

/-- A step over an idle piece stays. -/
theorem step?_of_isIdle {tree : FileTree} {piece : FileName} (idle : Path.isIdle piece = true)
    (directory : tree.isDirectory location = true) :
    step? tree location piece = some location := by
  simp [step?, directory, idle]

theorem foldlM_step?_of_isIdle {tree : FileTree} {pieces : List FileName}
    (idle : ∀ piece ∈ pieces, Path.isIdle piece = true)
    (directory : tree.isDirectory location = true) :
    pieces.foldlM (step? tree) location = some location := by
  induction pieces with
  | nil => rfl
  | cons piece pieces ih =>
      obtain ⟨head, tail⟩ := List.forall_mem_cons.mp idle
      rw [List.foldlM_cons, step?_of_isIdle head directory]
      exact ih tail

/-- Idle pieces at the end lead nowhere else. -/
theorem foldlM_step?_of_append_isIdle {tree : FileTree} {start : Location}
    {pieces idles : List FileName} (idle : ∀ piece ∈ idles, Path.isIdle piece = true)
    (reached : (pieces ++ idles).foldlM (step? tree) start = some location) :
    pieces.foldlM (step? tree) start = some location := by
  rw [List.foldlM_append] at reached
  obtain ⟨middle, path, rest⟩ := Option.bind_eq_some_iff.mp reached
  rw [path]
  cases idles with
  | nil => exact rest
  | cons piece idles =>
      -- The first idle piece is taken, so it is taken in a directory.
      rw [List.foldlM_cons] at rest
      obtain ⟨next, taken, -⟩ := Option.bind_eq_some_iff.mp rest
      rw [← List.foldlM_cons, foldlM_step?_of_isIdle idle (step?_cases taken).1] at rest
      exact rest

/-- The last piece of a path is taken in a directory. -/
theorem exists_step?_of_locate? {last : FileName} (ends : path.pieces.getLast? = some last)
    (located : workspace.locate? path = some location) :
    ∃ parent, step? workspace.tree parent last = some location := by
  obtain ⟨before, pieces⟩ := List.getLast?_eq_some_iff.mp ends
  unfold locate? at located
  split at located
  · cases located
  · rw [pieces, List.foldlM_append] at located
    obtain ⟨parent, -, taken⟩ := Option.bind_eq_some_iff.mp located
    obtain ⟨next, stepped, same⟩ := Option.bind_eq_some_iff.mp taken
    rw [List.foldlM_nil] at same
    cases same
    exact ⟨parent, stepped⟩

/-- A path without pieces leads to the root, if anywhere. -/
theorem eq_nil_of_locate? (none : path.pieces = [])
    (located : workspace.locate? path = some location) : location = [] := by
  unfold locate? at located
  split at located
  · cases located
  · rename_i spelled
    have absolute : path.isAbsolute = true := by
      cases kind : path.isAbsolute with
      | true => rfl
      | false =>
          refine absurd ?_ spelled
          rw [Path.bytes, kind, none]
          rfl
    rw [none, start, if_pos absolute] at located
    exact (Option.some.inj located).symm

/-- A path leads to a directory, or its last piece names something in one. -/
theorem locate?_cases (located : workspace.locate? path = some location) :
    workspace.tree.isDirectory location = true ∨
      ∃ parent name, path.pieces.getLast? = some name ∧ Path.isName name = true ∧
        location = parent ++ [name] ∧ workspace.tree.isDirectory parent = true := by
  cases ends : path.pieces.getLast? with
  | none =>
      rw [eq_nil_of_locate? (List.getLast?_eq_none_iff.mp ends) located]
      exact Or.inl (FileTree.isDirectory_iff.mpr (Or.inl rfl))
  | some last =>
      obtain ⟨parent, stepped⟩ := exists_step?_of_locate? ends located
      obtain ⟨directory, stays | ⟨named, rfl⟩⟩ := step?_cases stepped
      · exact Or.inl stays
      · exact Or.inr ⟨parent, last, rfl, named, rfl, directory⟩

/-- A path that ends in a name leads to something of this name. -/
theorem exists_of_locate?_of_isName {name : FileName} (ends : path.pieces.getLast? = some name)
    (named : Path.isName name = true) (located : workspace.locate? path = some location) :
    ∃ parent, location = parent ++ [name] := by
  obtain ⟨parent, stepped⟩ := exists_step?_of_locate? ends located
  rw [step?_of_isName named (step?_cases stepped).1] at stepped
  exact ⟨parent, (Option.some.inj stepped).symm⟩

/-! ## Workspaces with the same places -/

/-- The directories of two workspaces are the same, so paths lead to the same
places in them. -/
structure SamePlaces (before after : Workspace) : Prop where
  directory : after.directory = before.directory
  environment : after.environment = before.environment
  made : after.tree.directories = before.tree.directories
  isDirectory : ∀ location, after.tree.isDirectory location = before.tree.isDirectory location

namespace SamePlaces

theorem refl (workspace : Workspace) : SamePlaces workspace workspace :=
  ⟨rfl, rfl, rfl, fun _ => rfl⟩

theorem trans {first second third : Workspace} (one : SamePlaces first second)
    (other : SamePlaces second third) : SamePlaces first third where
  directory := other.directory.trans one.directory
  environment := other.environment.trans one.environment
  made := other.made.trans one.made
  isDirectory location := (other.isDirectory location).trans (one.isDirectory location)

theorem locate? {before after : Workspace} (same : SamePlaces before after) (path : Path) :
    after.locate? path = before.locate? path := by
  have steps : step? after.tree = step? before.tree := by
    funext location piece
    rw [step?, step?, same.isDirectory]
  rw [Workspace.locate?, Workspace.locate?, start, start, steps, same.directory]

end SamePlaces

/-! ## One write -/

/-- A file is written where its path leads, in a directory that is there. -/
theorem exists_of_write {text : String} (written : workspace.write path text = .ok after) :
    ∃ parent name, path.pieces.getLast? = some name ∧ Path.isName name = true ∧
      workspace.locate? path = some (parent ++ [name]) ∧
      workspace.tree.isDirectory parent = true ∧
      workspace.tree.isDirectory (parent ++ [name]) = false ∧
      after = { workspace with
        tree := workspace.tree.write (parent ++ [name]) (Text.bytesOf text) } := by
  unfold write at written
  cases located : workspace.locate? path with
  | none =>
      rw [located] at written
      cases written
  | some location =>
      rw [located] at written
      dsimp only at written
      split at written
      · cases written
      · rename_i free
        rcases locate?_cases located with directory | ⟨parent, name, last, named, rfl, directory⟩
        · exact absurd directory free
        · exact ⟨parent, name, last, named, rfl, directory, Bool.eq_false_iff.mpr free,
            (Except.ok.inj written).symm⟩

theorem samePlaces_of_write {text : String} (written : workspace.write path text = .ok after) :
    SamePlaces workspace after := by
  obtain ⟨parent, name, -, -, -, directory, -, rfl⟩ := exists_of_write written
  exact ⟨rfl, rfl, rfl, fun location => FileTree.isDirectory_write directory⟩

/-- A write succeeds exactly where a path leads to something that is no
directory. -/
theorem write_eq_ok_iff {text : String} :
    workspace.write path text = .ok after ↔
      ∃ location, workspace.locate? path = some location ∧
        workspace.tree.isDirectory location = false ∧
        after = { workspace with tree := workspace.tree.write location (Text.bytesOf text) } := by
  constructor
  · intro written
    obtain ⟨parent, name, -, -, located, -, free, rfl⟩ := exists_of_write written
    exact ⟨_, located, free, rfl⟩
  · rintro ⟨location, located, free, rfl⟩
    simp [write, located, free]

theorem write_of_locate? (located : workspace.locate? path = some location)
    (free : workspace.tree.isDirectory location = false) (text : String) :
    workspace.write path text =
      .ok { workspace with tree := workspace.tree.write location (Text.bytesOf text) } :=
  write_eq_ok_iff.mpr ⟨location, located, free, rfl⟩

/-! ## Lists of writes -/

/-- Writes files one after the other. -/
def writeAll (workspace : Workspace) (files : List (Path × String)) : Result Workspace :=
  files.foldlM (fun workspace file => workspace.write file.1 file.2) workspace

/-- The places where files are written, with what is written there. -/
def placed (workspace : Workspace) (files : List (Path × String)) :
    List (Location × Text.Bytes) :=
  files.filterMap fun file =>
    (workspace.locate? file.1).map fun location => (location, Text.bytesOf file.2)

theorem placed_cons {file : Path × String} (located : workspace.locate? file.1 = some location)
    (files : List (Path × String)) :
    workspace.placed (file :: files) =
      (location, Text.bytesOf file.2) :: workspace.placed files := by
  have first : ((workspace.locate? file.1).map fun location => (location, Text.bytesOf file.2)) =
      some (location, Text.bytesOf file.2) := by
    rw [located, Option.map_some]
  exact List.filterMap_cons_some first

theorem writeAll_cons_eq_ok_iff {file : Path × String} {files : List (Path × String)} :
    workspace.writeAll (file :: files) = .ok after ↔
      ∃ next, workspace.write file.1 file.2 = .ok next ∧ next.writeAll files = .ok after := by
  rw [writeAll, List.foldlM_cons]
  exact bind_eq_ok_iff

theorem SamePlaces.placed {before after : Workspace} (same : SamePlaces before after)
    (files : List (Path × String)) : after.placed files = before.placed files := by
  simp only [Workspace.placed, same.locate?]

/-- A list of writes succeeds exactly if every path leads to something that is
no directory. It is one list of writes to the tree. -/
theorem writeAll_eq_ok_iff {files : List (Path × String)} :
    workspace.writeAll files = .ok after ↔
      (∀ file ∈ files, ∃ location, workspace.locate? file.1 = some location ∧
        workspace.tree.isDirectory location = false) ∧
      after = { workspace with tree := workspace.tree.writeAll (workspace.placed files) } := by
  -- The first write moves no place, so the others are done at the same ones.
  induction files generalizing workspace with
  | nil =>
      constructor
      · rintro ⟨⟩
        exact ⟨fun _ listed => absurd listed List.not_mem_nil, rfl⟩
      · rintro ⟨-, rfl⟩
        rfl
  | cons file files ih =>
      rw [writeAll_cons_eq_ok_iff, List.forall_mem_cons]
      constructor
      · rintro ⟨next, written, rest⟩
        obtain ⟨free, rfl⟩ := ih.mp rest
        clear ih rest
        have same := samePlaces_of_write written
        obtain ⟨location, located, open_, rfl⟩ := write_eq_ok_iff.mp written
        refine ⟨⟨⟨location, located, open_⟩, fun other listed => ?_⟩, ?_⟩
        · obtain ⟨place, leads, clear⟩ := free other listed
          exact ⟨place, (same.locate? other.1) ▸ leads, (same.isDirectory place) ▸ clear⟩
        · rw [same.placed, placed_cons located]
          rfl
      · rintro ⟨⟨⟨location, located, open_⟩, free⟩, rfl⟩
        have written : workspace.write file.1 file.2 = .ok
            { workspace with tree := workspace.tree.write location (Text.bytesOf file.2) } :=
          write_eq_ok_iff.mpr ⟨location, located, open_, rfl⟩
        have same := samePlaces_of_write written
        refine ⟨_, written, ih.mpr ⟨fun other listed => ?_, ?_⟩⟩
        · obtain ⟨place, leads, clear⟩ := free other listed
          exact ⟨place, (same.locate? other.1).trans leads, (same.isDirectory place).trans clear⟩
        · rw [same.placed, placed_cons located]
          rfl

theorem samePlaces_of_writeAll {files : List (Path × String)}
    (written : workspace.writeAll files = .ok after) : workspace.SamePlaces after := by
  induction files generalizing workspace with
  | nil =>
      cases written
      exact .refl after
  | cons file files ih =>
      obtain ⟨next, first, rest⟩ := writeAll_cons_eq_ok_iff.mp written
      exact (samePlaces_of_write first).trans (ih rest)

/-- **Writes that were done can be done again, and change nothing then.** -/
theorem writeAll_again {files : List (Path × String)}
    (written : workspace.writeAll files = .ok after) : after.writeAll files = .ok after := by
  have same := samePlaces_of_writeAll written
  obtain ⟨free, rfl⟩ := writeAll_eq_ok_iff.mp written
  refine writeAll_eq_ok_iff.mpr ⟨fun file listed => ?_, ?_⟩
  · obtain ⟨location, located, clear⟩ := free file listed
    exact ⟨location, (same.locate? file.1).trans located, (same.isDirectory location).trans clear⟩
  · rw [same.placed, FileTree.writeAll_writeAll]

end NamedConstants.Workspace
