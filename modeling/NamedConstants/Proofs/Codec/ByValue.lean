import NamedConstants.Proofs.Codec.RoundTrip
import NamedConstants.Proofs.Family.Resolution

/-!
# Families that travel by value

Every plain instance, registered or not, comes back from each of the five
encodings as what its raw scalar resolves to (`roundTrip_eq_resolve_value`). Two
codecs refuse a raw scalar: a driver takes no unsigned number beyond the signed
ones of 64 bits, and the empty string has no bytes.
-/

set_option autoImplicit false

namespace NamedConstants

variable {kind : Kind}

theorem Kind.isConstant_of_isPlain (plain : kind.isPlain = true) : kind.isConstant = true := by
  cases kind with
  | timestamp => cases plain
  | structured => cases plain
  | _ => rfl

/-! ## What the codecs refuse -/

namespace Encoding

theorem refusal?_driver_eq_some {raw : Scalar kind} {failure : Failure} :
    driver.refusal? raw = some failure ↔
      kind = .integer .uint64 ∧ ∃ value, raw.toInt? = some value ∧
        IntegerKind.int64.maximum < value ∧
          failure = .overflow (toString value) (.integer .int64) := by
  cases raw with
  | @integer width x =>
      by_cases wide : width = .uint64
      · subst wide
        rw [refusal?]
        constructor
        · intro refused
          split at refused
          · next large => exact ⟨rfl, x.value, rfl, large, (Option.some.inj refused).symm⟩
          · cases refused
        · rintro ⟨-, value, own, large, rfl⟩
          rw [← Option.some.inj own] at large ⊢
          rw [if_pos large]
      · have taken : driver.refusal? (Scalar.integer x) = none := by
          rw [refusal?_integer, if_pos (contains_int64 wide x)]
        rw [taken]
        constructor
        · intro refused
          cases refused
        · rintro ⟨same, -⟩
          exact absurd (Kind.integer.inj same) wide
  | float => simp [refusal?]
  | bool => simp [refusal?]
  | string => simp [refusal?]
  | bytes => simp [refusal?]
  | timestamp => simp [refusal?]
  | structured => simp [refusal?]

theorem refusal?_binary_eq_some {raw : Scalar kind} {failure : Failure} :
    binary.refusal? raw = some failure ↔
      kind = .string ∧ raw.toText = "" ∧ failure = .emptyData kind := by
  cases raw with
  | string written =>
      have text : (Scalar.string written).toText = written := String.ofList_toList
      rw [refusal?, text]
      by_cases empty : written = ""
      · rw [if_pos empty, Option.some_inj]
        exact ⟨fun same => ⟨rfl, empty, same.symm⟩, fun same => same.2.2.symm⟩
      · rw [if_neg empty]
        constructor
        · intro refused
          cases refused
        · exact fun same => absurd same.2.1 empty
  | integer => simp [refusal?]
  | float => simp [refusal?]
  | bool => simp [refusal?]
  | bytes => simp [refusal?]
  | timestamp => simp [refusal?]
  | structured => simp [refusal?]

end Encoding

section Refusals

variable {family : Family kind} (valued : family.representation = .byValue)
variable (plain : kind.isPlain = true) (raw : Scalar kind)

include valued plain

theorem driver_encode_eq_error_iff (failure : Failure) :
    Codec.Driver.encode family raw = .error failure ↔
      Encoding.driver.refusal? raw = some failure := by
  rw [Codec.Driver.encode, valued]
  dsimp only
  rcases ofScalar_eq plain raw with ⟨own, refused, failed⟩ | ⟨value, taken, written, -⟩
  · rw [refused, failed, Option.some_inj]
    exact ⟨Except.error.inj, congrArg _⟩
  · rw [taken, written]
    constructor
    · intro same
      cases same
    · intro same
      cases same

theorem binary_decode_eq_emptyData_iff :
    Codec.Binary.decode family (Codec.Binary.encode family raw) = .error (.emptyData kind) ↔
      Encoding.binary.refusal? raw = some (.emptyData kind) := by
  have trip : Codec.Binary.decode family (Codec.Binary.encode family raw) = _ :=
    Encoding.binary.roundTrip_of_byValue valued plain raw raw
  rw [trip]
  cases refused : Encoding.binary.refusal? raw with
  | some failure =>
      constructor
      · exact fun same => congrArg some (Except.error.inj same)
      · intro same
        rw [Option.some.inj same]
  | none =>
      constructor
      · intro failed
        cases Family.eq_unknownConstant_of_resolve failed
      · intro same
        cases same

end Refusals

/-! ## Round trips -/

/-- **Each codec gives back what the raw scalar resolves to.** That is the first
member whose raw scalar equals the one written, and an unknown constant if there
is none. A driver refuses exactly the unsigned numbers beyond the signed ones of
64 bits, and only the empty string is not read back from its bytes. -/
theorem roundTrip_eq_resolve_value (plain : kind.isPlain = true) (typeName : String)
    (insensitive : Bool) (members : List (Member kind)) (raw target : Scalar kind) :
    let family := Family.ofMembers typeName .byValue insensitive members
    (∀ encoding : Encoding, encoding.roundTrip family raw target =
      match encoding.refusal? raw with
      | some failure => .error failure
      | none => family.resolve (.value raw) (encoding.reportedValue raw)) ∧
    (∀ source, family.resolve (.value raw) source =
      match scanForRaw? members raw with
      | some member => .ok member.raw
      | none => .error (.unknownConstant source)) ∧
    (∀ failure, Codec.Driver.encode family raw = .error failure ↔
      kind = .integer .uint64 ∧ ∃ value, raw.toInt? = some value ∧
        IntegerKind.int64.maximum < value ∧
          failure = .overflow (toString value) (.integer .int64)) ∧
    (Codec.Binary.decode family (Codec.Binary.encode family raw) = .error (.emptyData kind) ↔
      kind = .string ∧ raw.toText = "") := by
  intro family
  have valued : family.representation = .byValue := rfl
  refine ⟨fun encoding => encoding.roundTrip_of_byValue valued plain raw target,
    Family.resolve_value_ofMembers typeName .byValue insensitive members
      (Kind.isConstant_of_isPlain plain) raw, ?_, ?_⟩
  · intro failure
    rw [driver_encode_eq_error_iff valued plain, Encoding.refusal?_driver_eq_some]
  · rw [binary_decode_eq_emptyData_iff valued plain, Encoding.refusal?_binary_eq_some]
    exact ⟨fun refused => ⟨refused.1, refused.2.1⟩, fun empty => ⟨empty.1, empty.2, rfl⟩⟩

/-- A number that no driver takes still travels as text. -/
theorem roundTrip_beyond_int64 :
    let large : Scalar (.integer .uint64) := .integer ⟨9223372036854775808, by decide⟩
    let family := Family.ofMembers "Limit" .byValue true [⟨large, "Large", ["Huge"], true⟩]
    Kind.isPlain (.integer .uint64) = true ∧
      Encoding.json.roundTrip family large (.default _) = .ok large ∧
      Encoding.driver.roundTrip family large (.default _) =
        .error (.overflow (toString (9223372036854775808 : Int)) (.integer .int64)) := by
  intro large family
  have trips := roundTrip_eq_resolve_value rfl "Limit" true [⟨large, "Large", ["Huge"], true⟩]
    large (.default _)
  refine ⟨rfl, ?_, ?_⟩
  · exact (trips.1 .json).trans (trips.2.1 _)
  · exact trips.1 .driver

end NamedConstants
