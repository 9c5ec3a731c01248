import NamedConstants.FileTree.Basic

/-!
# What a write does to a file tree

A write gives the file its content and leaves every other file as it is
(`content?_write`). It makes no directory where the parent of the file is one
(`isDirectory_write`), and it adds at most the one location, behind the others
(`locations_write`).

Writes are overwrites. Writing what a file already holds changes nothing
(`write_of_content?_eq`), of two writes to one file the later one counts
(`write_write_self`), and writes to different files change places once the file
of the first is there (`write_write_of_ne`). So in a list of writes the last one
to a file counts (`content?_writeAll`), and the same list done a second time
changes nothing (`writeAll_writeAll`).
-/

set_option autoImplicit false

namespace NamedConstants.FileTree

/-! ## Files -/

section Entries

variable {location other : Location} {content content' : Text.Bytes}

theorem lookup_put_self (files : List (Location × Text.Bytes)) :
    (write.put location content files).lookup location = some content := by
  induction files with
  | nil => simp [write.put]
  | cons file files ih =>
      obtain ⟨own, old⟩ := file
      by_cases same : own = location
      · simp [write.put, same]
      · have apart : (location == own) = false := beq_false_of_ne fun eq => same eq.symm
        simp [write.put, same, List.lookup_cons, apart, ih]

theorem lookup_put_of_ne (apart : other ≠ location) (files : List (Location × Text.Bytes)) :
    (write.put location content files).lookup other = files.lookup other := by
  have off : (other == location) = false := beq_false_of_ne apart
  induction files with
  | nil => simp [write.put, List.lookup_cons, off]
  | cons file files ih =>
      obtain ⟨own, old⟩ := file
      by_cases same : own = location
      · simp [write.put, same, List.lookup_cons, off]
      · simp [write.put, same, List.lookup_cons, ih]

theorem put_of_lookup_eq {files : List (Location × Text.Bytes)}
    (held : files.lookup location = some content) : write.put location content files = files := by
  induction files with
  | nil => cases held
  | cons file files ih =>
      obtain ⟨own, old⟩ := file
      by_cases same : own = location
      · subst same
        simp at held
        simp [write.put, held]
      · have apart : (location == own) = false := beq_false_of_ne fun eq => same eq.symm
        simp only [List.lookup_cons, apart] at held
        simp [write.put, same, ih held]

theorem put_put_self (files : List (Location × Text.Bytes)) :
    write.put location content' (write.put location content files) =
      write.put location content' files := by
  induction files with
  | nil => simp [write.put]
  | cons file files ih =>
      obtain ⟨own, old⟩ := file
      by_cases same : own = location
      · simp [write.put, same]
      · simp [write.put, same, ih]

/-- The file of the first write has to be there, since a new file comes last. -/
theorem put_put_of_ne (apart : other ≠ location) {files : List (Location × Text.Bytes)}
    (present : (files.lookup location).isSome) :
    write.put other content' (write.put location content files) =
      write.put location content (write.put other content' files) := by
  induction files with
  | nil => cases present
  | cons file files ih =>
      obtain ⟨own, old⟩ := file
      by_cases here : own = location
      · subst here
        simp [write.put, apart.symm]
      · have off : (location == own) = false := beq_false_of_ne fun eq => here eq.symm
        simp only [List.lookup_cons, off] at present
        by_cases there : own = other
        · subst there
          simp [write.put, here]
        · simp [write.put, here, there, ih present]

/-- A write adds at most the location of the file, behind the others. -/
theorem map_fst_put (files : List (Location × Text.Bytes)) :
    (write.put location content files).map Prod.fst =
      files.map Prod.fst ++ if (files.lookup location).isSome then [] else [location] := by
  induction files with
  | nil => simp [write.put]
  | cons file files ih =>
      obtain ⟨own, old⟩ := file
      by_cases same : own = location
      · simp [write.put, same]
      · have off : (location == own) = false := beq_false_of_ne fun eq => same eq.symm
        have behind : ((own, old) :: files).lookup location = files.lookup location := by
          rw [List.lookup_cons, off]
        rw [behind]
        simp [write.put, same, ih]

end Entries

variable {tree : FileTree} {location other : Location} {content content' : Text.Bytes}

/-- **A write changes the content of one file.** -/
theorem content?_write (tree : FileTree) (location other : Location) (content : Text.Bytes) :
    (tree.write location content).content? other =
      if other = location then some content else tree.content? other := by
  by_cases same : other = location
  · rw [if_pos same, same]
    exact lookup_put_self tree.files
  · rw [if_neg same]
    exact lookup_put_of_ne same tree.files

theorem write_of_content?_eq (held : tree.content? location = some content) :
    tree.write location content = tree := by
  rw [write, put_of_lookup_eq held]

theorem write_write_self (tree : FileTree) :
    (tree.write location content).write location content' = tree.write location content' := by
  simp only [write, put_put_self]

theorem write_write_of_ne (apart : other ≠ location) (present : tree.isFile location = true) :
    (tree.write location content).write other content' =
      (tree.write other content').write location content := by
  simp only [write, put_put_of_ne apart present]

theorem isFile_write (tree : FileTree) (location other : Location) (content : Text.Bytes) :
    (tree.write location content).isFile other = (other == location || tree.isFile other) := by
  rw [isFile, content?_write]
  by_cases same : other = location
  · simp [same]
  · simp [same, isFile]

theorem locations_write (tree : FileTree) (location : Location) (content : Text.Bytes) :
    (tree.write location content).files.map Prod.fst =
      tree.files.map Prod.fst ++ if tree.isFile location then [] else [location] :=
  map_fst_put tree.files

/-! ## Lists of writes -/

/-- Writes files one after the other. -/
def writeAll (tree : FileTree) (files : List (Location × Text.Bytes)) : FileTree :=
  files.foldl (fun tree file => tree.write file.1 file.2) tree

theorem writeAll_cons (tree : FileTree) (file : Location × Text.Bytes)
    (files : List (Location × Text.Bytes)) :
    tree.writeAll (file :: files) = (tree.write file.1 file.2).writeAll files :=
  rfl

/-- The last write to a location counts. -/
theorem content?_writeAll (tree : FileTree) (files : List (Location × Text.Bytes))
    (location : Location) :
    (tree.writeAll files).content? location =
      (files.reverse.lookup location).or (tree.content? location) := by
  induction files generalizing tree with
  | nil => rfl
  | cons file files ih =>
      obtain ⟨own, content⟩ := file
      rw [writeAll_cons, ih, content?_write, List.reverse_cons, List.lookup_append, Option.or_assoc]
      by_cases same : location = own
      · subst same
        simp
      · have off : (location == own) = false := beq_false_of_ne same
        simp [same, List.lookup_cons, off]

/-- A write that a later one replaces need not be done, if its file is there. -/
theorem writeAll_write_of_mem {files : List (Location × Text.Bytes)}
    (later : location ∈ files.map Prod.fst) (present : tree.isFile location = true) :
    (tree.write location content).writeAll files = tree.writeAll files := by
  induction files generalizing tree with
  | nil => cases later
  | cons file files ih =>
      obtain ⟨own, content'⟩ := file
      rw [writeAll_cons, writeAll_cons]
      by_cases same : own = location
      · subst same
        rw [write_write_self]
      · have rest : location ∈ files.map Prod.fst :=
          (List.mem_cons.mp later).resolve_left fun eq => same eq.symm
        have kept : (tree.write own content').isFile location = true := by
          rw [isFile_write, present, Bool.or_true]
        rw [write_write_of_ne same present, ih rest kept]

/-- Writes of what the files hold in the end change nothing. -/
theorem writeAll_of_content?_eq {files : List (Location × Text.Bytes)}
    (held : ∀ location content, files.reverse.lookup location = some content →
      tree.content? location = some content) : tree.writeAll files = tree := by
  induction files generalizing tree with
  | nil => rfl
  | cons file files ih =>
      obtain ⟨own, content⟩ := file
      rw [List.reverse_cons] at held
      have tail : tree.writeAll files = tree := by
        refine ih fun location later found => held location later ?_
        rw [List.lookup_append, found, Option.some_or]
      rw [writeAll_cons]
      cases later : files.reverse.lookup own with
      | some last =>
          -- The file is written again, so it is there and the first write does not count.
          have present : tree.isFile own = true := by
            rw [isFile, held own last (by rw [List.lookup_append, later, Option.some_or]),
              Option.isSome_some]
          obtain ⟨before, after, split, -⟩ := List.lookup_eq_some_iff.mp later
          have again : own ∈ files.map Prod.fst := by
            rw [← List.mem_reverse, ← List.map_reverse, split]
            simp
          rw [writeAll_write_of_mem again present, tail]
      | none =>
          have settled : tree.content? own = some content :=
            held own content (by rw [List.lookup_append, later]; simp)
          rw [write_of_content?_eq settled, tail]

/-- **The same writes done a second time change nothing.** -/
theorem writeAll_writeAll (tree : FileTree) (files : List (Location × Text.Bytes)) :
    (tree.writeAll files).writeAll files = tree.writeAll files := by
  refine writeAll_of_content?_eq fun location content found => ?_
  rw [content?_writeAll, found, Option.some_or]

/-! ## Directories -/

theorem isBelow_iff : isBelow location other = true ↔ location <+: other ∧ location ≠ other := by
  simp [isBelow]

theorem isDirectory_iff :
    tree.isDirectory location = true ↔
      location = [] ∨ (∃ made ∈ tree.directories, location <+: made) ∨
        ∃ file ∈ tree.files.map Prod.fst, location <+: file ∧ location ≠ file := by
  simp [isDirectory, isBelow, or_assoc]

/-- What a directory lies in is a directory. -/
theorem isDirectory_of_prefix (directory : tree.isDirectory location = true)
    (above : other <+: location) : tree.isDirectory other = true := by
  rw [isDirectory_iff] at directory ⊢
  rcases directory with root | ⟨made, listed, below⟩ | ⟨file, listed, below, apart⟩
  · subst root
    exact Or.inl (List.prefix_nil.mp above)
  · exact Or.inr (Or.inl ⟨made, listed, above.trans below⟩)
  · refine Or.inr (Or.inr ⟨file, listed, above.trans below, ?_⟩)
    rintro rfl
    exact apart (below.eq_of_length_le above.length_le)

/-- A file lies in a directory. -/
theorem isDirectory_of_isFile {parent : Location} {name : FileName}
    (file : tree.isFile (parent ++ [name]) = true) : tree.isDirectory parent = true := by
  obtain ⟨held, listed, own⟩ := List.lookup_isSome_iff.mp file
  refine isDirectory_iff.mpr (Or.inr (Or.inr ⟨parent ++ [name], ?_, List.prefix_append _ _, ?_⟩))
  · rw [beq_iff_eq.mp own]
    exact List.mem_map_of_mem listed
  · simp

/-- A file is written into a directory that is there, so no directory is new. -/
theorem isDirectory_write {parent : Location} {name : FileName}
    (directory : tree.isDirectory parent = true) :
    (tree.write (parent ++ [name]) content).isDirectory other = tree.isDirectory other := by
  rw [Bool.eq_iff_iff]
  constructor
  · intro found
    rw [isDirectory_iff, locations_write] at found
    rcases found with root | made | ⟨file, listed, below, apart⟩
    · exact isDirectory_iff.mpr (Or.inl root)
    · exact isDirectory_iff.mpr (Or.inr (Or.inl made))
    · rcases List.mem_append.mp listed with old | new
      · exact isDirectory_iff.mpr (Or.inr (Or.inr ⟨file, old, below, apart⟩))
      · -- What lies above the new file is its parent or lies above that.
        split at new
        · cases new
        · rw [List.mem_singleton.mp new, List.prefix_concat_iff] at below
          rcases below with whole | above
          · exact absurd (whole.trans (List.mem_singleton.mp new).symm) apart
          · exact isDirectory_of_prefix directory above
  · intro found
    rw [isDirectory_iff] at found ⊢
    rcases found with root | made | ⟨file, listed, below⟩
    · exact Or.inl root
    · exact Or.inr (Or.inl made)
    · refine Or.inr (Or.inr ⟨file, ?_, below⟩)
      rw [locations_write]
      exact List.mem_append_left _ listed

end NamedConstants.FileTree
