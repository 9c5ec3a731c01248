import NamedConstants.Proofs.Family.Table
import NamedConstants.Proofs.Text.LetterCase

/-!
# Lookups are linear searches

The maps of a table only save time: a lookup by raw scalar answers as a walk
through the members would (`lookups_by_raw_eq_scan`), and so does a lookup by
name (`findByName?_eq_scan`). The walk for a raw scalar looks for its key, which
constants share exactly if they are equal (`scanForRaw?_eq_firstSharing?`). A table
that ignores case finds a name exactly when some declared name has the same lower
case.
-/

set_option autoImplicit false

namespace NamedConstants

variable {kind : Kind}

/-! ## Keys of a member -/

namespace Member

@[simp] theorem keys_sensitive (member : Member kind) : member.keys false = member.names := by
  simp [keys]

theorem mem_keys_insensitive {member : Member kind} {text : String} :
    text ∈ member.keys true ↔ ∃ name ∈ member.names, text = name ∨ text = lowercase name := by
  rw [keys, List.mem_flatMap]
  simp only [if_pos, List.mem_cons, List.not_mem_nil, or_false]

theorem names_subset_keys (insensitive : Bool) (member : Member kind) :
    member.names ⊆ member.keys insensitive := by
  intro name declared
  cases insensitive with
  | false => rwa [keys_sensitive]
  | true => exact mem_keys_insensitive.mpr ⟨name, declared, Or.inl rfl⟩

theorem lowercase_mem_keys {member : Member kind} {name : String} (declared : name ∈ member.names) :
    lowercase name ∈ member.keys true :=
  mem_keys_insensitive.mpr ⟨name, declared, Or.inr rfl⟩

end Member

@[simp] theorem lowercase_lowercase (text : String) :
    lowercase (lowercase text) = lowercase text := by
  unfold lowercase
  rw [String.toList_ofList, Text.toLower_toLower]

/-- A key of a member has the lower case of one of its names. -/
theorem Member.lowercase_eq_of_mem_keys {member : Member kind} {text : String}
    (filed : text ∈ member.keys true) :
    ∃ name ∈ member.names, lowercase name = lowercase text := by
  obtain ⟨name, declared, same | same⟩ := mem_keys_insensitive.mp filed
  · exact ⟨name, declared, congrArg lowercase same.symm⟩
  · exact ⟨name, declared, by rw [same, lowercase_lowercase]⟩

/-! ## Scans -/

/-- The first member whose raw scalar shares its key with the given one. -/
def firstSharing? (members : List (Member kind)) (raw : Scalar kind) : Option (Member kind) :=
  members.find? fun member => member.raw.sharesKey raw

/-- **Among constants a walk for equal raw scalars is one for shared keys.** -/
theorem scanForRaw?_eq_firstSharing? (constant : kind.isConstant = true)
    (members : List (Member kind)) (raw : Scalar kind) :
    scanForRaw? members raw = firstSharing? members raw := by
  simp only [scanForRaw?, firstSharing?, Scalar.sharesKey_eq_equal constant]

theorem scanForRaw?_eq_some {members : List (Member kind)} {raw : Scalar kind}
    {member : Member kind} (found : scanForRaw? members raw = some member) :
    member ∈ members ∧ member.raw.equal raw = true :=
  ⟨List.mem_of_find?_eq_some found,
    List.find?_some (p := fun other : Member kind => other.raw.equal raw) found⟩

theorem scanForRaw?_isSome {members : List (Member kind)} {raw : Scalar kind}
    {member : Member kind} (listed : member ∈ members) (has : member.raw.equal raw = true) :
    (scanForRaw? members raw).isSome = true :=
  List.find?_isSome.mpr ⟨member, listed, has⟩

theorem scanForKey?_eq_some {insensitive : Bool} {members : List (Member kind)} {key : String}
    {member : Member kind} (found : scanForKey? insensitive members key = some member) :
    member ∈ members ∧ key ∈ member.keys insensitive :=
  ⟨List.mem_of_find?_eq_some found,
    List.contains_iff_mem.mp
      (List.find?_some (p := fun other : Member kind => (other.keys insensitive).contains key)
        found)⟩

theorem scanForKey?_isSome {insensitive : Bool} {members : List (Member kind)} {key : String}
    {member : Member kind} (listed : member ∈ members) (filed : key ∈ member.keys insensitive) :
    (scanForKey? insensitive members key).isSome = true :=
  List.find?_isSome.mpr ⟨member, listed, List.contains_iff_mem.mpr filed⟩

theorem scanForName?_eq_or (insensitive : Bool) (members : List (Member kind)) (name : String) :
    scanForName? insensitive members name =
      (scanForKey? insensitive members name).or
        (if insensitive then scanForKey? insensitive members (lowercase name) else none) := by
  unfold scanForName?
  cases scanForKey? insensitive members name with
  | none => rw [Option.none_or]
  | some member => rw [Option.some_or]

/-- Where case is ignored, the member that is found declares the name up to case.
-/
theorem declares_of_scanForName? {members : List (Member kind)} {name : String}
    {member : Member kind} (found : scanForName? true members name = some member) :
    member ∈ members ∧ ∃ key ∈ member.names, lowercase key = lowercase name := by
  rw [scanForName?_eq_or, if_pos rfl, Option.or_eq_some_iff] at found
  rcases found with direct | ⟨-, folded⟩
  · obtain ⟨listed, filed⟩ := scanForKey?_eq_some direct
    exact ⟨listed, member.lowercase_eq_of_mem_keys filed⟩
  · obtain ⟨listed, filed⟩ := scanForKey?_eq_some folded
    obtain ⟨key, declared, same⟩ := member.lowercase_eq_of_mem_keys filed
    exact ⟨listed, key, declared, same.trans (lowercase_lowercase name)⟩

/-- Where case is ignored, a name is found exactly when it is declared up to case.
-/
theorem scanForName?_isSome_iff {members : List (Member kind)} {name : String} :
    (scanForName? true members name).isSome = true ↔
      ∃ member ∈ members, ∃ key ∈ member.names, lowercase key = lowercase name := by
  constructor
  · intro found
    obtain ⟨member, found⟩ := Option.isSome_iff_exists.mp found
    obtain ⟨listed, key, declared, same⟩ := declares_of_scanForName? found
    exact ⟨member, listed, key, declared, same⟩
  · rintro ⟨member, listed, key, declared, same⟩
    have folded : lowercase name ∈ member.keys true := same ▸ Member.lowercase_mem_keys declared
    rw [scanForName?_eq_or, if_pos rfl, Option.isSome_or, scanForKey?_isSome listed folded,
      Bool.or_true]

namespace Table

/-! ## Lookups in a table whose keys are filed -/

section Filed

variable {table : Table kind}

theorem Filed.findByRaw?_eq (filed : table.Filed) (raw : Scalar kind) :
    table.findByRaw? raw = firstSharing? table.members raw := by
  rw [findByRaw?, filed.positionOfRaw?_eq, firstSharing?, List.find?_eq_bind_findIdx?_getElem?]

theorem Filed.findByName?_eq (filed : table.Filed) (name : String) :
    table.findByName? name = scanForName? table.insensitive table.members name := by
  rw [findByName?, filed.positionOfName?_eq, scanForName?_eq_or, scanForKey?, scanForKey?,
    List.find?_eq_bind_findIdx?_getElem?, List.find?_eq_bind_findIdx?_getElem?]
  cases found : table.members.findIdx? fun member =>
      (member.keys table.insensitive).contains name with
  | none =>
      rw [Option.none_or, Option.bind_none, Option.none_or]
      cases table.insensitive with
      | false => rfl
      | true => rfl
  | some position =>
      obtain ⟨below, -⟩ := List.findIdx?_eq_some_iff_getElem.mp found
      rw [Option.some_or, Option.bind_some, List.getElem?_eq_getElem below, Option.some_or]

theorem Filed.lt_of_byName (filed : table.Filed) {key : String} {position : Nat}
    (found : table.byName[key]? = some position) : position < table.members.length :=
  (List.findIdx?_eq_some_iff_getElem.mp ((filed.byName key).symm.trans found)).1

theorem Filed.lt_of_byRaw (filed : table.Filed) {key : Text.Bytes} {position : Nat}
    (found : table.byRaw[key]? = some position) : position < table.members.length :=
  (List.findIdx?_eq_some_iff_getElem.mp ((filed.byRaw key).symm.trans found)).1

theorem Filed.lt_of_positionOfRaw? (filed : table.Filed) {raw : Scalar kind} {position : Nat}
    (found : table.positionOfRaw? raw = some position) : position < table.members.length :=
  (List.findIdx?_eq_some_iff_getElem.mp ((filed.positionOfRaw?_eq raw).symm.trans found)).1

end Filed

/-! ## Lookups in a table of members -/

/-- **A lookup by raw scalar answers as a walk through the members would.** The
scalar, the name and the validity are those of the first member whose raw scalar
shares its key with the given one. Among constants this is the first member whose
raw scalar equals the given one, where floats are equal as numbers. The members
stay in their order, and every position that is stored or found is one of theirs. -/
theorem lookups_by_raw_eq_scan (insensitive : Bool) (members : List (Member kind))
    (raw : Scalar kind) :
    (kind.isConstant = true →
      (ofMembers insensitive members).findByRaw? raw = scanForRaw? members raw ∧
      (ofMembers insensitive members).nameOf? raw = (scanForRaw? members raw).map (·.name) ∧
      (ofMembers insensitive members).isValid raw =
        (scanForRaw? members raw).any (·.isValid)) ∧
      (ofMembers insensitive members).findByRaw? raw = firstSharing? members raw ∧
      (ofMembers insensitive members).nameOf? raw = (firstSharing? members raw).map (·.name) ∧
      (ofMembers insensitive members).isValid raw =
        (firstSharing? members raw).any (·.isValid) ∧
      (ofMembers insensitive members).members = members ∧
      (∀ position, (ofMembers insensitive members).positionOfRaw? raw = some position →
        position < members.length) ∧
      (∀ (key : Text.Bytes) (position : Nat),
        (ofMembers insensitive members).byRaw[key]? = some position → position < members.length) ∧
      (∀ (key : String) (position : Nat),
        (ofMembers insensitive members).byName[key]? = some position →
          position < members.length) ∧
      ∀ (precision : FloatKind) (x y : BinaryFloat precision.format),
        (Scalar.float x).equal (.float y) = true ↔
          x.isNaN = false ∧ y.isNaN = false ∧ ((x.isZero = true ∧ y.isZero = true) ∨ x = y) := by
  have filed := filed_ofMembers insensitive members
  have order := members_ofMembers insensitive members
  have found : (ofMembers insensitive members).findByRaw? raw = firstSharing? members raw := by
    rw [filed.findByRaw?_eq, order]
  have named : (ofMembers insensitive members).nameOf? raw =
      (firstSharing? members raw).map (·.name) := by
    rw [nameOf?, found]
  have valid : (ofMembers insensitive members).isValid raw =
      (firstSharing? members raw).any (·.isValid) := by
    rw [isValid, found]
  refine ⟨fun constant => ?_, found, named, valid, order, ?_, ?_, ?_,
    fun _ x y => BinaryFloat.equal_iff x y⟩
  · rw [scanForRaw?_eq_firstSharing? constant]
    exact ⟨found, named, valid⟩
  · intro position located
    rw [← order]
    exact filed.lt_of_positionOfRaw? located
  · intro key position stored
    rw [← order]
    exact filed.lt_of_byRaw stored
  · intro key position stored
    rw [← order]
    exact filed.lt_of_byName stored

/-- **A lookup by name answers as a walk through the members would.** A table
that ignores case first looks for the name as it is and then for its lower case;
it finds a member exactly when some declared name has the same lower case, and
the member it finds declares such a name. -/
theorem findByName?_eq_scan (members : List (Member kind)) (name : String) :
    (ofMembers false members).findByName? name =
        members.find? (fun member => member.names.contains name) ∧
      (ofMembers true members).findByName? name =
        (scanForKey? true members name).or (scanForKey? true members (lowercase name)) ∧
      (((ofMembers true members).findByName? name).isSome = true ↔
        ∃ member ∈ members, ∃ key ∈ member.names, lowercase key = lowercase name) ∧
      ∀ member, (ofMembers true members).findByName? name = some member →
        member ∈ members ∧ ∃ key ∈ member.names, lowercase key = lowercase name := by
  have scan : ∀ insensitive, (ofMembers insensitive members).findByName? name =
      scanForName? insensitive members name := by
    intro insensitive
    rw [(filed_ofMembers insensitive members).findByName?_eq, insensitive_ofMembers,
      members_ofMembers]
  rw [scan false, scan true]
  refine ⟨?_, ?_, scanForName?_isSome_iff, fun member => declares_of_scanForName?⟩
  · rw [scanForName?_eq_or, if_neg Bool.false_ne_true, Option.or_none, scanForKey?]
    simp only [Member.keys_sensitive]
  · rw [scanForName?_eq_or, if_pos rfl]

end Table

end NamedConstants
