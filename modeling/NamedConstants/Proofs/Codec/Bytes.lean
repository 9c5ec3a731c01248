import NamedConstants.Proofs.Codec.RoundTrip
import NamedConstants.Proofs.Family.Resolution
import NamedConstants.Proofs.Text.ValidUtf8

/-!
# Byte sequences that travel by value

A node and a driver value hold the bytes themselves. The binary form is the
bytes too, but no bytes at all are never read. In a text the bytes are read as
UTF-8, so what comes back are the bytes of that text (`carriedBytes?`,
`roundTrip_of_bytes`): the same ones exactly when they are UTF-8. Since a
replaced text has other bytes than the original, a member never comes back from
it by chance (`roundTrip_of_member_bytes`).
-/

set_option autoImplicit false

namespace NamedConstants

/-! ## What an encoding carries -/

/-- The bytes that are read back after a byte sequence was written; none if the
written form is refused. -/
def Encoding.carriedBytes? (encoding : Encoding) (octets : Text.Bytes) : Option Text.Bytes :=
  match encoding with
  | json | text => some (Text.encode (Text.decodeLossy octets))
  | binary => if octets = [] then none else some octets
  | node | driver => some octets

theorem Encoding.carriedBytes?_eq_iff (encoding : Encoding) (octets : Text.Bytes) :
    encoding.carriedBytes? octets = some octets ↔
      match encoding with
      | json | text => Text.isUtf8 octets = true
      | binary => octets ≠ []
      | node | driver => True := by
  cases encoding with
  | json => exact Option.some_inj.trans Text.encode_decodeLossy_iff
  | text => exact Option.some_inj.trans Text.encode_decodeLossy_iff
  | binary =>
      rw [carriedBytes?]
      by_cases empty : octets = []
      · simp [empty]
      · simp [empty]
  | node => exact iff_of_true rfl trivial
  | driver => exact iff_of_true rfl trivial

/-! ## Raw byte sequences are read back -/

theorem readValue_writeRaw_bytes (octets : Text.Bytes) :
    Codec.Json.readValue (Text.encode (Codec.Json.writeRaw (.bytes octets))) =
      .ok (.value (.bytes (Text.encode (Text.decodeLossy octets)))) := by
  have read := jsonOfBytes_encode (Json.ofText?_writeString (Scalar.bytes octets).toText)
  have carried : Text.bytesOf (Scalar.bytes octets).toText =
      Text.encode (Text.decodeLossy octets) := by
    rw [Text.bytesOf, Scalar.toText, Scalar.writeText, String.toList_ofList]
  rw [Codec.Json.readValue, Codec.Json.writeRaw, read, ← carried]
  rfl

theorem ofText_toText_bytes (octets : Text.Bytes) :
    Scalar.ofText (Scalar.bytes octets).toText .bytes =
      .ok (.bytes (Text.encode (Text.decodeLossy octets))) := by
  rw [Scalar.ofText, Text.bytesOf, Scalar.toText, Scalar.writeText, String.toList_ofList]

theorem ofBytes_toBytes_bytes (octets : Text.Bytes) :
    Scalar.ofBytes (Scalar.bytes octets).toBytes .bytes =
      if octets = [] then .error (.emptyData .bytes) else .ok (.bytes octets) := by
  cases octets with
  | nil => rfl
  | cons first rest => rfl

/-- **A byte sequence that travels by value comes back as what the carried bytes
resolve to.** -/
theorem Encoding.roundTrip_of_bytes (encoding : Encoding) {family : Family .bytes}
    (valued : family.representation = .byValue) (octets : Text.Bytes) (target : Scalar .bytes) :
    encoding.roundTrip family (.bytes octets) target =
      match encoding.carriedBytes? octets with
      | none => .error (.emptyData .bytes)
      | some carried =>
        family.resolve (.value (.bytes carried)) (encoding.reportedValue (.bytes octets)) := by
  cases encoding with
  | json =>
      simp only [roundTrip, Codec.Json.encode, Codec.Json.decode, valued, readValue_writeRaw_bytes,
        Text.lossyString_encode]
      rfl
  | text =>
      simp only [roundTrip, Codec.Text.encode, Codec.Text.decode, valued, ofText_toText_bytes]
      rfl
  | binary =>
      simp only [roundTrip, Codec.Binary.encode, Codec.Binary.decode, valued, ofBytes_toBytes_bytes,
        carriedBytes?]
      by_cases empty : octets = []
      · simp only [empty, if_true]
        rfl
      · simp only [empty, if_false]
        rfl
  | node =>
      simp only [roundTrip, Codec.Node.encode, Codec.Node.decode, valued]
      rfl
  | driver =>
      have candidate : Codec.Driver.readCandidate family target
          (DriverValue.bytes octets).toValue = .ok (.value (.bytes octets)) := by
        rw [Codec.Driver.readCandidate, valued]
        rfl
      simp only [roundTrip, Codec.Driver.encode, valued, Codec.Driver.ofScalar, bind, Except.bind,
        Codec.Driver.scan, candidate]
      rfl

/-! ## Members are read back -/

/-- Byte sequences are equal when they are the same. -/
theorem Scalar.equal_bytes {x y : Scalar .bytes} : x.equal y = true ↔ x = y := by
  cases x
  cases y
  simp [equal]

/-- A member that is looked up by its own byte sequence is found with it. -/
theorem resolve_own_bytes (typeName source : String) (insensitive : Bool)
    {members : List (Member .bytes)} {member : Member .bytes} (listed : member ∈ members) :
    (Family.ofMembers typeName .byValue insensitive members).resolve (.value member.raw) source =
      .ok member.raw := by
  rw [Family.resolve_value_ofMembers _ _ _ _ rfl]
  obtain ⟨found, answer⟩ :=
    Option.isSome_iff_exists.mp (scanForRaw?_isSome listed (Scalar.equal_bytes.mpr rfl))
  rw [answer]
  exact congrArg Except.ok (Scalar.equal_bytes.mp (scanForRaw?_eq_some answer).2)

/-- Other bytes lead to another member or to none. -/
theorem eq_of_resolve_bytes {typeName source : String} {insensitive : Bool}
    {members : List (Member .bytes)} {raw read : Scalar .bytes}
    (resolved : (Family.ofMembers typeName .byValue insensitive members).resolve (.value raw)
      source = .ok read) : read = raw := by
  rw [Family.resolve_value_ofMembers _ _ _ _ rfl] at resolved
  cases answer : scanForRaw? members raw with
  | none =>
      rw [answer] at resolved
      cases resolved
  | some found =>
      rw [answer] at resolved
      cases resolved
      exact Scalar.equal_bytes.mp (scanForRaw?_eq_some answer).2

/-- **A member with a byte sequence comes back exactly when the encoding carries
its bytes.** From a node and from a driver value it always does, from its own
bytes unless there are none, and from a text exactly when the bytes are those of
a text. -/
theorem roundTrip_of_member_bytes (typeName : String) (insensitive : Bool)
    (members : List (Member .bytes)) (target : Scalar .bytes) (octets : Text.Bytes)
    (listed : Scalar.bytes octets ∈ members.map (·.raw)) :
    let family := Family.ofMembers typeName .byValue insensitive members
    let returns (encoding : Encoding) : Prop :=
      encoding.roundTrip family (.bytes octets) target = .ok (.bytes octets)
    returns .node ∧ returns .driver ∧ (returns .binary ↔ octets ≠ []) ∧
      (returns .text ↔ ∃ written : String, Text.bytesOf written = octets) ∧
      (returns .json ↔ ∃ written : String, Text.bytesOf written = octets) := by
  intro family returns
  obtain ⟨member, listed, own⟩ := List.mem_map.mp listed
  have carries (encoding : Encoding) :
      returns encoding ↔ encoding.carriedBytes? octets = some octets := by
    dsimp only [returns]
    rw [encoding.roundTrip_of_bytes rfl octets target]
    cases encoding.carriedBytes? octets with
    | none => simp
    | some carried =>
        constructor
        · intro resolved
          have same := eq_of_resolve_bytes resolved
          rw [Scalar.bytes.inj same]
        · intro same
          have found := resolve_own_bytes typeName (encoding.reportedValue member.raw) insensitive
            listed
          rw [own] at found
          rw [Option.some.inj same]
          exact found
  have written : Text.isUtf8 octets = true ↔ ∃ written : String, Text.bytesOf written = octets := by
    rw [Text.isUtf8_iff]
    constructor
    · rintro ⟨text, same⟩
      exact ⟨String.ofList text, by rw [Text.bytesOf, String.toList_ofList, same]⟩
    · rintro ⟨text, same⟩
      exact ⟨text.toList, same⟩
  simp only [carries, Encoding.carriedBytes?_eq_iff, written, and_self]

/-- A signature that is no UTF-8 comes back from its bytes and not from its text.
-/
theorem roundTrip_of_signature :
    let signature : Text.Bytes := [0x89, 0x50, 0x4E, 0x47]
    let members : List (Member .bytes) := [⟨.bytes signature, "Png", [], true⟩]
    let family := Family.ofMembers "Magic" .byValue false members
    Scalar.bytes signature ∈ members.map (·.raw) ∧
      Encoding.binary.roundTrip family (.bytes signature) (.default .bytes) =
        .ok (.bytes signature) ∧
      Encoding.text.roundTrip family (.bytes signature) (.default .bytes) ≠
        .ok (.bytes signature) := by
  intro signature members family
  have listed : Scalar.bytes signature ∈ members.map (·.raw) := List.mem_singleton.mpr rfl
  obtain ⟨-, -, binary, text, -⟩ :=
    roundTrip_of_member_bytes "Magic" false members (.default .bytes) signature listed
  refine ⟨listed, binary.mpr (List.cons_ne_nil _ _), fun back => ?_⟩
  obtain ⟨written, same⟩ := text.mp back
  have valid : Text.isUtf8 signature = true := Text.isUtf8_iff.mpr ⟨written.toList, same⟩
  have fault : Text.isUtf8 signature = false := by
    rw [Text.isUtf8, Text.decode, Text.decodeFrom]
    rfl
  exact absurd (valid.symm.trans fault) (by decide)

end NamedConstants
