import NamedConstants.Family.Basic
import NamedConstants.Proofs.Family.Lookup

/-!
# What a candidate resolves to

The family of a list of members resolves a candidate by walking through the
list: a raw scalar to the first member that has it (`resolve_value_ofMembers`), a
name to the first member that answers to it (`resolve_name_ofMembers`). The only
failure is that no member answers.
-/

set_option autoImplicit false

namespace NamedConstants.Family

variable {kind : Kind}

/-- A resolution fails in one way only. -/
theorem eq_unknownConstant_of_resolve {family : Family kind} {candidate : Candidate kind}
    {source : String} {failure : Failure}
    (failed : family.resolve candidate source = .error failure) :
    failure = .unknownConstant source := by
  unfold resolve at failed
  split at failed
  · cases failed
  · exact (Except.error.inj failed).symm

/-- It fails exactly when no member is found. -/
theorem resolve_eq_unknownConstant_iff {family : Family kind} {candidate : Candidate kind}
    {source : String} :
    family.resolve candidate source = .error (.unknownConstant source) ↔
      family.find? candidate = none := by
  unfold resolve
  cases family.find? candidate with
  | none => exact ⟨fun _ => rfl, fun _ => rfl⟩
  | some raw =>
      constructor
      · intro failed
        cases failed
      · intro missed
        cases missed

/-- What is found does not depend on the source that a miss reports. -/
theorem toOption_resolve (family : Family kind) (candidate : Candidate kind) (source : String) :
    (family.resolve candidate source).toOption = family.find? candidate := by
  unfold resolve
  cases family.find? candidate <;> rfl

theorem resolve_eq_ok_iff {family : Family kind} {candidate : Candidate kind} {source : String}
    {raw : Scalar kind} :
    family.resolve candidate source = .ok raw ↔ family.find? candidate = some raw := by
  unfold resolve
  cases family.find? candidate with
  | none =>
      constructor
      · rintro ⟨⟩
      · rintro ⟨⟩
  | some found =>
      constructor
      · rintro ⟨⟩
        rfl
      · rintro ⟨⟩
        rfl

/-- Whatever a candidate resolves to is the raw scalar of a declared member. -/
theorem mem_all_of_resolve {family : Family kind} {candidate : Candidate kind} {source : String}
    {raw : Scalar kind} (resolved : family.resolve candidate source = .ok raw) :
    raw ∈ family.all := by
  have found := resolve_eq_ok_iff.mp resolved
  -- Both maps lead to a position, and the member stands there.
  cases candidate with
  | name text =>
      obtain ⟨member, answer, rfl⟩ := Option.map_eq_some_iff.mp found
      obtain ⟨position, -, placed⟩ := Option.bind_eq_some_iff.mp answer
      exact List.mem_map_of_mem (List.mem_of_getElem? placed)
  | value wanted =>
      obtain ⟨member, answer, rfl⟩ := Option.map_eq_some_iff.mp found
      obtain ⟨position, -, placed⟩ := Option.bind_eq_some_iff.mp answer
      exact List.mem_map_of_mem (List.mem_of_getElem? placed)

section OfMembers

variable (typeName : String) (representation : Representation) (insensitive : Bool)
variable (members : List (Member kind))

theorem findByRaw?_ofMembers (raw : Scalar kind) :
    (ofMembers typeName representation insensitive members).findByRaw? raw =
      (firstSharing? members raw).map (·.raw) := by
  rw [findByRaw?, ofMembers, (Table.filed_ofMembers insensitive members).findByRaw?_eq,
    Table.members_ofMembers]

theorem findByName?_ofMembers (name : String) :
    (ofMembers typeName representation insensitive members).findByName? name =
      (scanForName? insensitive members name).map (·.raw) := by
  rw [findByName?, ofMembers, (Table.filed_ofMembers insensitive members).findByName?_eq,
    Table.insensitive_ofMembers, Table.members_ofMembers]

theorem nameOf_ofMembers (raw : Scalar kind) :
    (ofMembers typeName representation insensitive members).nameOf raw =
      match firstSharing? members raw with
      | some member => member.name
      | none => lowercase typeName ++ "(" ++ raw.toText ++ ")" := by
  rw [nameOf, ofMembers, Table.nameOf?,
    (Table.filed_ofMembers insensitive members).findByRaw?_eq, Table.members_ofMembers]
  cases firstSharing? members raw <;> rfl

/-- **A constant resolves to the first member that has it.** -/
theorem resolve_value_ofMembers (constant : kind.isConstant = true) (raw : Scalar kind)
    (source : String) :
    (ofMembers typeName representation insensitive members).resolve (.value raw) source =
      match scanForRaw? members raw with
      | some member => .ok member.raw
      | none => .error (.unknownConstant source) := by
  rw [resolve, find?, findByRaw?_ofMembers, scanForRaw?_eq_firstSharing? constant]
  cases firstSharing? members raw <;> rfl

/-- **A name resolves to the first member that answers to it.** -/
theorem resolve_name_ofMembers (name source : String) :
    (ofMembers typeName representation insensitive members).resolve (.name name) source =
      match scanForName? insensitive members name with
      | some member => .ok member.raw
      | none => .error (.unknownConstant source) := by
  rw [resolve, find?, findByName?_ofMembers]
  cases scanForName? insensitive members name <;> rfl

end OfMembers

end NamedConstants.Family
