import NamedConstants.Proofs.Scalar.Key

/-!
# The maps of a table

A table built from a list of members holds that list, and each of its maps sends
a key to the first member it belongs to (`Filed`, `filed_ofMembers`). Filing a
key never moves one that is filed already, so the invariant survives one more
member behind the others (`Filed.add`).

From it follow the positions: the one of a raw scalar is the first whose raw
scalar shares its key (`Filed.positionOfRaw?_eq`), the one of a name the first
filed under the name (`Filed.positionOfName?_eq`).
-/

set_option autoImplicit false

namespace NamedConstants.Table

variable {kind : Kind}

/-- Each map sends a key to the first member it belongs to. -/
structure Filed (table : Table kind) : Prop where
  byName : ∀ key, table.byName[key]? =
    table.members.findIdx? fun member => (member.keys table.insensitive).contains key
  byRaw : ∀ key, table.byRaw[key]? =
    table.members.findIdx? fun member => member.raw.key? == some key

/-! ## Filing one member -/

/-- What is filed already stays where it is. -/
theorem getElem?_insertIfNew_or {α : Type} [BEq α] [Hashable α] [LawfulBEq α]
    [LawfulHashable α] (map : Std.HashMap α Nat) (first key : α) (position : Nat) :
    (map.insertIfNew first position)[key]? =
      map[key]?.or (if first == key then some position else none) := by
  rw [Std.HashMap.getElem?_insertIfNew]
  by_cases same : first = key
  · subst same
    by_cases filed : first ∈ map
    · simp [filed]
    · simp [filed]
  · simp [same]

theorem getElem?_fileNames (position : Nat) (keys : List String)
    (byName : Std.HashMap String Nat) (key : String) :
    (fileNames position keys byName)[key]? =
      byName[key]?.or (if keys.contains key then some position else none) := by
  induction keys generalizing byName with
  | nil => simp [fileNames]
  | cons first keys ih =>
      have unfolded : fileNames position (first :: keys) byName =
          fileNames position keys (byName.insertIfNew first position) := rfl
      rw [unfolded, ih, getElem?_insertIfNew_or, Option.or_assoc, List.contains_cons]
      by_cases same : first = key
      · simp [same]
      · simp [same, Ne.symm same]

theorem getElem?_fileRaw (position : Nat) (raw : Scalar kind)
    (byRaw : Std.HashMap Text.Bytes Nat) (key : Text.Bytes) :
    (fileRaw position raw byRaw)[key]? =
      byRaw[key]?.or (if raw.key? == some key then some position else none) := by
  unfold fileRaw
  cases own : raw.key? with
  | none => simp
  | some first =>
      dsimp only
      rw [getElem?_insertIfNew_or]
      by_cases same : first = key
      · simp [same]
      · simp [same]

/-- A key of the new member points behind the others, unless one of them has it.
-/
theorem findIdx?_snoc (members : List (Member kind)) (member : Member kind)
    (holds : Member kind → Bool) :
    (members ++ [member]).findIdx? holds =
      (members.findIdx? holds).or (if holds member then some members.length else none) := by
  rw [List.findIdx?_append, List.findIdx?_singleton]
  cases holds member <;> simp

theorem Filed.empty (insensitive : Bool) : (empty insensitive : Table kind).Filed where
  byName _ := Std.HashMap.getElem?_empty
  byRaw _ := Std.HashMap.getElem?_empty

theorem Filed.add {table : Table kind} (filed : table.Filed) (member : Member kind) :
    (table.add member).Filed where
  byName key := by
    rw [Table.add, getElem?_fileNames, filed.byName, findIdx?_snoc]
  byRaw key := by
    rw [Table.add, getElem?_fileRaw, filed.byRaw, findIdx?_snoc]

/-! ## Filing all members -/

theorem foldl_add (members : List (Member kind)) (table : Table kind) (filed : table.Filed) :
    (members.foldl add table).Filed ∧
      (members.foldl add table).members = table.members ++ members ∧
      (members.foldl add table).insensitive = table.insensitive := by
  induction members generalizing table with
  | nil => exact ⟨filed, (List.append_nil _).symm, rfl⟩
  | cons member members ih =>
      obtain ⟨all, order, case⟩ := ih (table.add member) (filed.add member)
      refine ⟨all, ?_, case⟩
      rw [List.foldl_cons, order, Table.add, List.append_assoc, List.singleton_append]

variable (insensitive : Bool) (members : List (Member kind))

/-- **Each map of a table sends a key to the first member it belongs to.** -/
theorem filed_ofMembers : (ofMembers insensitive members).Filed :=
  (foldl_add members _ (Filed.empty insensitive)).1

@[simp] theorem members_ofMembers : (ofMembers insensitive members).members = members :=
  (foldl_add members _ (Filed.empty insensitive)).2.1

@[simp] theorem insensitive_ofMembers :
    (ofMembers insensitive members).insensitive = insensitive :=
  (foldl_add members _ (Filed.empty insensitive)).2.2

/-! ## Positions -/

section Positions

variable {table : Table kind}

/-- The position of a raw scalar is the first whose raw scalar shares its key. What
has no key is looked for and not found. -/
theorem Filed.positionOfRaw?_eq (filed : table.Filed) (raw : Scalar kind) :
    table.positionOfRaw? raw = table.members.findIdx? fun member => member.raw.sharesKey raw := by
  unfold positionOfRaw?
  cases own : raw.key? with
  | none =>
      dsimp only
      congr 1
      funext member
      rw [Scalar.equal_of_key?_eq_none own, Scalar.sharesKey_of_key?_eq_none own]
  | some key =>
      dsimp only
      rw [filed.byRaw]
      congr 1
      funext member
      rw [Bool.eq_iff_iff, beq_iff_eq, Scalar.sharesKey_iff, own]
      constructor
      · exact fun same => ⟨key, same, rfl⟩
      · rintro ⟨shared, first, second⟩
        rw [first, second]

theorem Filed.positionOfName?_eq (filed : table.Filed) (name : String) :
    table.positionOfName? name =
      (table.members.findIdx? fun member => (member.keys table.insensitive).contains name).or
        (if table.insensitive then
          table.members.findIdx? fun member =>
            (member.keys table.insensitive).contains (lowercase name)
        else none) := by
  unfold positionOfName?
  rw [filed.byName, filed.byName]
  split
  case h_1 position found => rw [found, Option.some_or]
  case h_2 missed => rw [missed, Option.none_or]

end Positions

end NamedConstants.Table
