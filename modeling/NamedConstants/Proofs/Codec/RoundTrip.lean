import NamedConstants.Codec.Binary
import NamedConstants.Codec.Driver
import NamedConstants.Codec.Json
import NamedConstants.Codec.Node
import NamedConstants.Codec.Text
import NamedConstants.Proofs.Json.Token
import NamedConstants.Proofs.Scalar.Text

/-!
# Round trips

An instance travels in one of five encodings. Written in any of them and read
back it becomes what the family resolves for its name (`roundTrip_of_byName`) or
for its raw scalar (`roundTrip_of_byValue`). Each codec gives back the raw scalar
itself, so nothing but the lookup decides about the result; the raw scalars that
a codec does not take are named by `refusal?`.
-/

set_option autoImplicit false

namespace NamedConstants

variable {kind : Kind}

/-! ## The five encodings -/

/-- An encoding in which an instance travels. -/
inductive Encoding
  | json
  | text
  | binary
  | node
  | driver
  deriving DecidableEq, Repr

namespace Encoding

/-- The instance that is read back after an instance was written. A driver value
is scanned into another instance. -/
def roundTrip (encoding : Encoding) (family : Family kind) (raw target : Scalar kind) :
    Result (Scalar kind) :=
  match encoding with
  | json => Codec.Json.decode family (Codec.Json.encode family raw)
  | text => Codec.Text.decode family (Codec.Text.encode family raw)
  | binary => Codec.Binary.decode family (Codec.Binary.encode family raw)
  | node => Codec.Node.decode family (.node (Codec.Node.encode family raw))
  | driver => do Codec.Driver.scan family target (← Codec.Driver.encode family raw).toValue

/-- The failure with which a codec refuses a raw scalar. -/
def refusal? : Encoding → Scalar kind → Option Failure
  | driver, @Scalar.integer .uint64 x =>
    if IntegerKind.int64.maximum < x.value then
      some (.overflow (toString x.value) (.integer .int64))
    else none
  | binary, .string written => if written = "" then some (.emptyData .string) else none
  | _, _ => none

/-- A name as it is reported when no member answers to it. -/
def reportedName (encoding : Encoding) (name : String) : String :=
  match encoding with
  | json => String.ofList (Json.writeString name)
  | _ => name

/-- A raw scalar as it is reported when no member has it. -/
def reportedValue (encoding : Encoding) (raw : Scalar kind) : String :=
  match encoding with
  | json => String.ofList (Codec.Json.writeRaw raw)
  | binary => Text.shownBytes raw.toBytes
  | _ => raw.toText

end Encoding

/-! ## Raw scalars are read back -/

theorem jsonOfBytes_encode {written : List Char} {value : Json}
    (read : Json.ofText? written = some value) :
    Scalar.jsonOfBytes (Text.encode written) = .ok value := by
  rw [Scalar.jsonOfBytes, Text.decode_encode]
  dsimp only
  rw [read]

/-- Every kind of integer lies between the smallest signed and the largest
unsigned number of 64 bits. -/
theorem contains_wide {kind : IntegerKind} (x : BoundedInt kind) :
    -(twoTo 63 : Nat) ≤ x.value ∧ x.value < (twoTo 64 : Nat) := by
  obtain ⟨value, least, most⟩ := x
  have low : -(twoTo 63 : Nat) ≤ kind.minimum := by cases kind <;> decide
  have high : kind.maximum < (twoTo 64 : Nat) := by cases kind <;> decide
  exact ⟨Int.le_trans low least, Int.lt_of_le_of_lt most high⟩

theorem readValue_writeRaw (plain : kind.isPlain = true) (raw : Scalar kind) :
    Codec.Json.readValue (Text.encode (Codec.Json.writeRaw raw)) = .ok (.value raw) := by
  unfold Codec.Json.readValue
  refine Scalar.plain_cases plain raw ?_ ?_ ?_
  · intro width x
    obtain ⟨least, most⟩ := contains_wide x
    have read := jsonOfBytes_encode (Json.ofText?_integerText least most)
    rw [Codec.Json.writeRaw, Scalar.writeText, IntegerText.write, read]
    simp only [bind, Except.bind, Scalar.ofJson?, Scalar.ofInt?_value]
    rfl
  · intro value
    have read := jsonOfBytes_encode (Json.ofText?_bool value)
    rw [Codec.Json.writeRaw, Scalar.writeText, ← Json.write, read]
    rfl
  · intro text
    have read := jsonOfBytes_encode (Json.ofText?_writeString text)
    rw [Codec.Json.writeRaw, read]
    rfl

theorem toScalar_ofScalar (plain : kind.isPlain = true) (raw : Scalar kind) :
    (Document.node (.ofScalar raw)).toScalar kind = .ok raw := by
  refine Scalar.plain_cases plain raw ?_ ?_ ?_
  · intro width x
    have direct : (Document.node (.integer x)).decodeAs? (.integer _) = some (.integer x) :=
      Scalar.ofInt?_value x
    rw [Node.ofScalar, Document.toScalar, direct]
  · intro value
    rfl
  · intro text
    rfl

/-- A raw scalar is read back from its bytes, if it has any. -/
theorem ofBytes_toBytes (plain : kind.isPlain = true) (raw : Scalar kind) :
    Scalar.ofBytes raw.toBytes kind =
      match Encoding.binary.refusal? raw with
      | some failure => .error failure
      | none => .ok raw := by
  refine Scalar.plain_cases plain raw ?_ ?_ ?_
  · intro width x
    have read := Scalar.ofBytes_integer x []
    rw [List.append_nil] at read
    exact read
  · intro value
    have read := Scalar.ofBytes_bool value []
    rw [List.append_nil] at read
    exact read
  · intro text
    by_cases empty : text = ""
    · subst empty
      rfl
    · rw [Scalar.ofBytes_string empty, Encoding.refusal?, if_neg empty]

/-- Only unsigned numbers of 64 bits exceed the signed ones. -/
theorem contains_int64 {kind : IntegerKind} (narrow : kind ≠ .uint64) (x : BoundedInt kind) :
    IntegerKind.int64.Contains x.value := by
  obtain ⟨value, least, most⟩ := x
  have low : IntegerKind.int64.minimum ≤ kind.minimum := by cases kind <;> decide
  have high : kind.maximum ≤ IntegerKind.int64.maximum := by
    cases kind with
    | uint64 => exact absurd rfl narrow
    | _ => decide
  exact ⟨Int.le_trans low least, Int.le_trans most high⟩

theorem refusal?_integer {kind : IntegerKind} (x : BoundedInt kind) :
    Encoding.driver.refusal? (Scalar.integer x) =
      if IntegerKind.int64.Contains x.value then none
      else some (.overflow (toString x.value) (.integer .int64)) := by
  by_cases wide : kind = .uint64
  · subst wide
    have least : IntegerKind.int64.minimum ≤ x.value :=
      Int.le_trans (by decide) x.contains.1
    rw [Encoding.refusal?]
    by_cases large : IntegerKind.int64.maximum < x.value
    · rw [if_pos large, if_neg fun contained => Int.not_le.mpr large contained.2]
    · rw [if_neg large, if_pos ⟨least, Int.not_lt.mp large⟩]
  · rw [if_pos (contains_int64 wide x)]
    cases kind with
    | uint64 => exact absurd rfl wide
    | _ => rfl

/-- A raw scalar is read back from its driver value, if it has one. -/
theorem ofScalar_eq (plain : kind.isPlain = true) (raw : Scalar kind) :
    (∃ failure, Encoding.driver.refusal? raw = some failure ∧
        Codec.Driver.ofScalar raw = .error failure) ∨
      ∃ value, Encoding.driver.refusal? raw = none ∧ Codec.Driver.ofScalar raw = .ok value ∧
        coerce value.toValue kind = .ok raw ∧ value.toValue.isNull = false ∧
          value.toText = raw.toText := by
  refine Scalar.plain_cases plain raw ?_ ?_ ?_
  · intro width x
    rw [refusal?_integer]
    by_cases contained : IntegerKind.int64.Contains x.value
    · have taken : Codec.Driver.ofScalar (.integer x) = .ok (.integer ⟨x.value, contained⟩) := by
        rw [Codec.Driver.ofScalar, Codec.Driver.ofInteger, Scalar.ofInt_of_contains contained]
        rfl
      exact Or.inr ⟨_, if_pos contained, taken, Scalar.ofInt_value x, rfl, rfl⟩
    · have refused : Codec.Driver.ofScalar (.integer x) =
          .error (.overflow (toString x.value) (.integer .int64)) := by
        rw [Codec.Driver.ofScalar, Codec.Driver.ofInteger, Scalar.ofInt_of_not_contains contained]
        rfl
      exact Or.inl ⟨_, if_neg contained, refused⟩
  · intro value
    exact Or.inr ⟨.bool value, rfl, rfl, rfl, rfl, rfl⟩
  · intro text
    exact Or.inr ⟨.string text, rfl, rfl, rfl, rfl, rfl⟩

theorem readName_writeString (name : String) :
    (Codec.Json.readName (Text.encode (Json.writeString name)) : Result (Candidate kind)) =
      .ok (.name name) := by
  rw [Codec.Json.readName, jsonOfBytes_encode (Json.ofText?_writeString name)]
  rfl

/-! ## Instances are read back -/

namespace Encoding

/-- **An instance that travels by name comes back as what its name resolves to.** -/
theorem roundTrip_of_byName (encoding : Encoding) {family : Family kind}
    (named : family.representation = .byName) (raw target : Scalar kind) :
    encoding.roundTrip family raw target =
      family.resolve (.name (family.nameOf raw)) (encoding.reportedName (family.nameOf raw)) := by
  cases encoding with
  | json =>
      simp only [roundTrip, Codec.Json.encode, Codec.Json.decode, named, readName_writeString,
        Text.lossyString_encode]
      rfl
  | text =>
      simp only [roundTrip, Codec.Text.encode, Codec.Text.decode, named]
      rfl
  | binary =>
      simp only [roundTrip, Codec.Binary.encode, Codec.Binary.decode, named, Text.stringOf_bytesOf]
      rfl
  | node =>
      simp only [roundTrip, Codec.Node.encode, Codec.Node.decode, named]
      rfl
  | driver =>
      have shown : (DriverValue.string (family.nameOf raw)).toValue.toText = family.nameOf raw :=
        String.ofList_toList
      have candidate : Codec.Driver.readCandidate family target
          (DriverValue.string (family.nameOf raw)).toValue = .ok (.name (family.nameOf raw)) := by
        rw [Codec.Driver.readCandidate, named]
        rfl
      simp only [roundTrip, Codec.Driver.encode, named, bind, Except.bind, Codec.Driver.scan,
        candidate, shown]
      rfl

/-- **A plain instance that travels by value comes back as what its raw scalar
resolves to, unless the codec refuses the scalar.** -/
theorem roundTrip_of_byValue (encoding : Encoding) {family : Family kind}
    (valued : family.representation = .byValue) (plain : kind.isPlain = true)
    (raw target : Scalar kind) :
    encoding.roundTrip family raw target =
      match encoding.refusal? raw with
      | some failure => .error failure
      | none => family.resolve (.value raw) (encoding.reportedValue raw) := by
  cases encoding with
  | json =>
      simp only [roundTrip, Codec.Json.encode, Codec.Json.decode, valued, readValue_writeRaw plain,
        Text.lossyString_encode]
      rfl
  | text =>
      simp only [roundTrip, Codec.Text.encode, Codec.Text.decode, valued,
        Scalar.ofText_toText plain]
      rfl
  | binary =>
      simp only [roundTrip, Codec.Binary.encode, Codec.Binary.decode, valued, ofBytes_toBytes plain]
      cases binary.refusal? raw with
      | some failure => rfl
      | none => rfl
  | node =>
      simp only [roundTrip, Codec.Node.encode, Codec.Node.decode, valued, toScalar_ofScalar plain]
      rfl
  | driver =>
      simp only [roundTrip, Codec.Driver.encode, valued]
      rcases ofScalar_eq plain raw with
        ⟨failure, refused, failed⟩ | ⟨value, accepted, written, back, present, shown⟩
      · rw [refused, failed]
        rfl
      · have candidate : Codec.Driver.readCandidate family target value.toValue =
            .ok (.value raw) := by
          rw [Codec.Driver.readCandidate, valued]
          dsimp only
          rw [scan_of_present present, back]
          rfl
        have text : value.toValue.toText = raw.toText := shown
        rw [accepted, written]
        simp only [bind, Except.bind, Codec.Driver.scan, present, candidate, text]
        rfl

end Encoding

end NamedConstants
