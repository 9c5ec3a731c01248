import NamedConstants.Declaration.Basic
import NamedConstants.Proofs.Family.Lookup

/-!
# Names without repetitions

The names of a constant are collected in order, each once, with the canonical
one in front (`Constant.mem_lookupNames`, `Constant.lookupNames_eq_cons`).

A table files a name once and under the first member that has it. So members
with the same names answer alike, however often and in which order they list
them (`Table.positionOfName?_congr`).
-/

set_option autoImplicit false

namespace NamedConstants

/-! ## The names of a constant -/

namespace Constant

theorem mem_addName {names : List String} {first name : String} :
    name ∈ addName names first ↔ name ∈ names ∨ name = first := by
  rw [addName]
  split
  · rename_i listed
    refine ⟨Or.inl, fun either => either.elim id ?_⟩
    rintro rfl
    exact List.contains_iff_mem.mp listed
  · rw [List.mem_append, List.mem_singleton]

theorem mem_foldl_addName {names others : List String} {name : String} :
    name ∈ others.foldl addName names ↔ name ∈ names ∨ name ∈ others := by
  induction others generalizing names with
  | nil => simp
  | cons first others ih => rw [List.foldl_cons, ih, mem_addName, List.mem_cons, or_assoc]

/-- The names that are added follow the ones that are there. -/
theorem prefix_foldl_addName (names others : List String) :
    names <+: others.foldl addName names := by
  induction others generalizing names with
  | nil => exact List.prefix_refl names
  | cons first others ih =>
      refine List.IsPrefix.trans ?_ (ih (addName names first))
      rw [addName]
      split
      · exact List.prefix_refl names
      · exact List.prefix_append names [first]

theorem nodup_addName {names : List String} (once : names.Nodup) (first : String) :
    (addName names first).Nodup := by
  rw [addName]
  split
  · exact once
  · rename_i missing
    refine List.nodup_append.mpr ⟨once, List.pairwise_singleton _ first, ?_⟩
    rintro name listed other own rfl
    rw [List.mem_singleton.mp own] at listed
    exact missing (List.contains_iff_mem.mpr listed)

theorem nodup_foldl_addName {names : List String} (once : names.Nodup) (others : List String) :
    (others.foldl addName names).Nodup := by
  induction others generalizing names with
  | nil => exact once
  | cons first others ih => exact ih (nodup_addName once first)

/-- A constant answers to its canonical name and its aliases. -/
theorem mem_lookupNames {constant : Constant} {name : String} :
    name ∈ constant.lookupNames ↔ name ∈ constant.name :: constant.aliases := by
  rw [lookupNames, mem_foldl_addName, List.mem_singleton, List.mem_cons]
  rcases constant with ⟨ident, literal, aliases, isValid, comment⟩
  cases aliases with
  | nil => simp
  | cons first others => simp [Constant.name]

/-- Every name is listed once. -/
theorem nodup_lookupNames (constant : Constant) : constant.lookupNames.Nodup :=
  nodup_foldl_addName (List.pairwise_singleton _ _) _

/-- The canonical name comes first. -/
theorem lookupNames_eq_cons (constant : Constant) :
    constant.lookupNames = constant.name :: constant.lookupNames.drop 1 := by
  obtain ⟨others, split⟩ := prefix_foldl_addName [constant.name] (constant.aliases.drop 1)
  rw [lookupNames, ← split]
  rfl

/-- The member that a constant stands for, with all of its aliases. -/
def member {kind : Kind} (value : String → Scalar kind) (constant : Constant) : Member kind :=
  ⟨value constant.ident, constant.name, constant.aliases, constant.isValid⟩

end Constant

/-! ## Members with the same names -/

variable {kind : Kind}

/-- Members with the same names are filed under the same keys. -/
theorem Member.contains_keys_congr {first second : Member kind}
    (same : ∀ name, name ∈ first.names ↔ name ∈ second.names) (insensitive : Bool) (key : String) :
    (first.keys insensitive).contains key = (second.keys insensitive).contains key := by
  rw [Bool.eq_iff_iff, List.contains_iff_mem, List.contains_iff_mem, Member.keys, Member.keys,
    List.mem_flatMap, List.mem_flatMap]
  simp only [same]

namespace Table

variable {α : Type} {first second : α → Member kind}

theorem findIdx?_keys_congr (same : ∀ a name, name ∈ (first a).names ↔ name ∈ (second a).names)
    (insensitive : Bool) (list : List α) (key : String) :
    (list.map first).findIdx? (fun member => (member.keys insensitive).contains key) =
      (list.map second).findIdx? fun member => (member.keys insensitive).contains key := by
  rw [List.findIdx?_map, List.findIdx?_map]
  congr 1
  funext a
  exact Member.contains_keys_congr (same a) insensitive key

/-- Tables of members with the same names find a name at the same position. -/
theorem positionOfName?_congr (same : ∀ a name, name ∈ (first a).names ↔ name ∈ (second a).names)
    (insensitive : Bool) (list : List α) (name : String) :
    (ofMembers insensitive (list.map first)).positionOfName? name =
      (ofMembers insensitive (list.map second)).positionOfName? name := by
  rw [(filed_ofMembers insensitive _).positionOfName?_eq,
    (filed_ofMembers insensitive _).positionOfName?_eq]
  simp only [insensitive_ofMembers, members_ofMembers, findIdx?_keys_congr same]

/-- They find the same raw scalar if their members have the same ones. -/
theorem raw_findByName?_congr (same : ∀ a name, name ∈ (first a).names ↔ name ∈ (second a).names)
    (raw : ∀ a, (first a).raw = (second a).raw) (insensitive : Bool) (list : List α)
    (name : String) :
    ((ofMembers insensitive (list.map first)).findByName? name).map (·.raw) =
      ((ofMembers insensitive (list.map second)).findByName? name).map (·.raw) := by
  rw [findByName?, findByName?, positionOfName?_congr same, members_ofMembers, members_ofMembers]
  simp only [Option.map_bind, Function.comp_def, List.getElem?_map, Option.map_map, raw]

end Table

end NamedConstants
