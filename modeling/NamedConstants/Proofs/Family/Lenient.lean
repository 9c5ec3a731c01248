import NamedConstants.Family.Basic
import NamedConstants.Proofs.Declaration.Names
import NamedConstants.Proofs.Declaration.Outcome
import NamedConstants.Proofs.Family.Resolution
import NamedConstants.Proofs.Json.WellFormed

/-!
# Lenient lookups

A companion that does not fail on unknown input answers every miss with the
sentinel of its kind. The sentinel is looked up among the members like any other
instance, so it is invalid exactly if the first member with its raw scalar is
marked, or if there is none (`isValid_sentinel_iff`, `answers_of_unknown`). A member
that is zero and not marked is what every unknown name yields
(`parse_of_zeroConstant`).
-/

set_option autoImplicit false

namespace NamedConstants

variable {kind : Kind}

namespace Family

/-! ## Misses -/

section Misses

variable {members : List (Member kind)} {insensitive : Bool}

/-- No member answers to the name. -/
def IsUnknownName (insensitive : Bool) (members : List (Member kind)) (name : String) : Prop :=
  ∀ member ∈ members, ∀ own ∈ member.names,
    if insensitive then lowercase own ≠ lowercase name else own ≠ name

/-- No member has the raw scalar. -/
def IsUnknownRaw (members : List (Member kind)) (raw : Scalar kind) : Prop :=
  ∀ member ∈ members, member.raw.equal raw = false

theorem findByName?_of_unknown (typeName : String) (representation : Representation) {name : String}
    (unknown : IsUnknownName insensitive members name) :
    (ofMembers typeName representation insensitive members).findByName? name = none := by
  rw [findByName?_ofMembers, Option.map_eq_none_iff]
  cases insensitive with
  | false =>
      rw [scanForName?_eq_or, if_neg Bool.false_ne_true, Option.or_none, scanForKey?,
        List.find?_eq_none]
      intro member listed answers
      rw [Member.keys_sensitive] at answers
      exact unknown member listed name (List.contains_iff_mem.mp answers) rfl
  | true =>
      rw [← Option.not_isSome_iff_eq_none, scanForName?_isSome_iff]
      rintro ⟨member, listed, own, declared, same⟩
      exact unknown member listed own declared same

theorem findByRaw?_of_unknown (constant : kind.isConstant = true) (typeName : String)
    (representation : Representation) {raw : Scalar kind} (unknown : IsUnknownRaw members raw) :
    (ofMembers typeName representation insensitive members).findByRaw? raw = none := by
  rw [findByRaw?_ofMembers, ← scanForRaw?_eq_firstSharing? constant, Option.map_eq_none_iff,
    scanForRaw?, List.find?_eq_none]
  intro member listed
  rw [unknown member listed]
  exact Bool.false_ne_true

end Misses

/-! ## The sentinel -/

/-- No point in time but the start of 1970 is written like it. -/
theorem asWritten_eq_epoch_iff {t : Timestamp} :
    t.asWritten = Timestamp.epoch.asWritten ↔ t = .epoch := by
  have epoch : Timestamp.epoch.asWritten = .epoch := by decide
  rw [epoch]
  constructor
  · intro same
    by_cases settled : t.IsSettled
    · rwa [Timestamp.asWritten_of_isSettled settled] at same
    · -- The second before it is the last of a minute.
      obtain ⟨-, early⟩ := Timestamp.not_isSettled_iff.mp settled
      have next := (Timestamp.asWritten_of_early (Timestamp.not_isSettled_iff.mp settled)).1
      have zero : t.asWritten.seconds = 0 := congrArg Timestamp.seconds same
      omega
  · rintro rfl
    exact epoch

/-- A scalar shares the key of the sentinel only by being equal to it, whatever the kind. -/
theorem sharesKey_sentinel (raw : Scalar kind) :
    raw.sharesKey (sentinel kind) = raw.equal (sentinel kind) := by
  cases constant : kind.isConstant with
  | true => exact Scalar.sharesKey_eq_equal constant raw (sentinel kind)
  | false =>
      rw [Bool.eq_iff_iff]
      cases raw with
      | timestamp t =>
          exact Scalar.sharesKey_timestamp_iff.trans
            (asWritten_eq_epoch_iff.trans Scalar.equal_timestamp_iff.symm)
      | structured value =>
          have equal : (Scalar.structured value).equal (sentinel .structured) = true ↔
              value = .null := by
            cases value <;> simp [Scalar.equal, sentinel, Scalar.default, Json.equal]
          exact Scalar.sharesKey_structured_iff.trans (Json.write_eq_null_iff.trans equal.symm)
      | integer => cases constant
      | float => cases constant
      | bool => cases constant
      | string => cases constant
      | bytes => cases constant

theorem scanForRaw?_sentinel (members : List (Member kind)) :
    scanForRaw? members (sentinel kind) = firstSharing? members (sentinel kind) := by
  simp only [scanForRaw?, firstSharing?, sharesKey_sentinel]

/-- The first member that has the raw scalar of the sentinel, if there is one, is
marked. -/
def MarksZero (members : List (Member kind)) : Prop :=
  ∀ member, scanForRaw? members (sentinel kind) = some member → member.isValid = false

theorem isValid_sentinel_iff (typeName : String) (representation : Representation)
    (insensitive : Bool) (members : List (Member kind)) :
    (ofMembers typeName representation insensitive members).isValid (sentinel kind) = false ↔
      MarksZero members := by
  rw [isValid, ofMembers, Table.isValid, (Table.filed_ofMembers insensitive members).findByRaw?_eq,
    Table.members_ofMembers, ← scanForRaw?_sentinel, MarksZero]
  cases scanForRaw? members (sentinel kind) with
  | none => simp
  | some member => simp

/-- **Unknown input yields an invalid instance exactly if the zero of the table is
marked.** Every name that no member answers to, every constant that no member has
and every value that is a miss is answered with the sentinel; the sentinel is
invalid unless the first member that has its raw scalar is not marked. -/
theorem answers_of_unknown (typeName : String) (representation : Representation)
    (insensitive : Bool) (members : List (Member kind)) :
    let family := ofMembers typeName representation insensitive members
    (∀ name, IsUnknownName insensitive members name → family.parse name = sentinel kind) ∧
    (kind.isConstant = true → ∀ raw, IsUnknownRaw members raw →
      family.parseRaw raw = sentinel kind) ∧
    (∀ input, family.findAny? input = .ok none → family.parseAny input = .ok (sentinel kind)) ∧
    (family.isValid (sentinel kind) = false ↔ MarksZero members) := by
  intro family
  refine ⟨fun name unknown => ?_, fun constant raw unknown => ?_, fun input missed => ?_,
    isValid_sentinel_iff typeName representation insensitive members⟩
  · rw [parse, findByName?_of_unknown typeName representation unknown]
    rfl
  · rw [parseRaw, findByRaw?_of_unknown constant typeName representation unknown]
    rfl
  · rw [parseAny, missed]
    rfl

/-- A status whose zero is marked. -/
def statusMembers : List (Member (.integer .uint8)) :=
  [⟨sentinel _, "StringNone", [], false⟩,
    ⟨.integer ⟨1, by decide⟩, "Active", ["On"], true⟩]

/-- Where the zero is marked, unknown input yields an invalid instance. -/
theorem answers_of_statusMembers :
    let family := ofMembers "Status" .byName true statusMembers
    family.isValid (family.parse "Dormant") = false ∧
    family.isValid (family.parseRaw (.integer ⟨2, by decide⟩)) = false ∧
    ∃ found, family.parseAny (.scalar (.string "Dormant")) = .ok found ∧
      family.isValid found = false := by
  have marked : MarksZero statusMembers := by
    intro member found
    cases found
    rfl
  have dormant : IsUnknownName true statusMembers "Dormant" := by
    unfold IsUnknownName
    decide +kernel
  have two : IsUnknownRaw statusMembers (.integer ⟨2, by decide⟩) := by
    unfold IsUnknownRaw
    decide +kernel
  obtain ⟨names, raws, values, invalid⟩ := answers_of_unknown "Status" .byName true statusMembers
  have missed : (ofMembers "Status" .byName true statusMembers).findAny?
      (.scalar (.string "Dormant")) = .ok none :=
    congrArg Except.ok (findByName?_of_unknown "Status" .byName dormant)
  refine ⟨?_, ?_, _, values _ missed, invalid.mpr marked⟩
  · rw [names "Dormant" dormant]
    exact invalid.mpr marked
  · rw [raws rfl _ two]
    exact invalid.mpr marked

/-- A source whose constant is zero. -/
def zeroConstant : String :=
  "type A = u8;\nconst B: A = 0;\n"

/-- The family that it declares. -/
def zeroDeclaration : Declaration where
  typeName := "A"
  underlying := "u8"
  kind := .integer .uint8
  stored := "u8"
  members := [⟨"B", "0", [], true, none⟩]
  options := .plain "A"

theorem scan_zeroConstant :
    Declaration.scan .default "reader" zeroConstant = .ok [zeroDeclaration] := by
  have read : Source.fileTokens? zeroConstant.toList = some [
      .word "type" false, .word "A" false, .mark '=' false, .word "u8" false, .mark ';' false,
      .word "const" false, .word "B" false, .mark ':' false, .word "A" false, .mark '=' false,
      .literal (.integer ['0']), .mark ';' false] := by
    rfl
  have byte := @Source.TypeForm.ofTokens_word "u8" (by decide)
  have own := @Source.TypeForm.ofTokens_word "A" (by decide)
  have zero := Source.ValueForm.ofTokens_literal (.integer ['0'])
  have items : Source.fileItems? zeroConstant.toList = some [
      .alias ⟨[], "A", .name "u8"⟩,
      .constant ⟨[], "B", .name "A", .literal (.integer ['0'])⟩] := by
    rw [Source.fileItems?, read, ← own, ← byte, ← zero]
    rfl
  rw [Scan.scan_of_fileItems? items]
  rfl

/-- A constant that is zero is what an unknown name yields, and it is valid. -/
theorem parse_of_zeroConstant :
    Declaration.scan .default "reader" zeroConstant = .ok [zeroDeclaration] ∧
      let members : List (Member (.integer .uint8)) :=
        zeroDeclaration.members.map (Constant.member fun _ => sentinel _)
      let family := ofMembers "A" .byName false members
      IsUnknownName false members "nope" ∧
        family.parse "nope" = sentinel _ ∧
        family.isValid (sentinel _) = true := by
  refine ⟨scan_zeroConstant, ?_⟩
  intro members family
  have unknown : IsUnknownName false members "nope" := by
    unfold IsUnknownName
    decide +kernel
  have first : scanForRaw? members (sentinel _) =
      some ⟨sentinel _, "B", [], true⟩ := by
    rfl
  have unmarked : ¬MarksZero members := fun marked => absurd (marked _ first) (by decide)
  refine ⟨unknown, ?_, ?_⟩
  · rw [parse, findByName?_of_unknown "A" .byName unknown]
    rfl
  · rw [← Bool.not_eq_false, isValid_sentinel_iff]
    exact unmarked

end Family

end NamedConstants
