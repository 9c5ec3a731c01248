import NamedConstants.Proofs.BinaryFloat.Conversion
import NamedConstants.Proofs.Codec.RoundTrip
import NamedConstants.Proofs.Family.Resolution

/-!
# Floats that travel by value

The binary form holds the bits of a float, a node holds the float itself, and a
driver value the float of 64 bits with the same value. Each of them leads back to
the member that equals the float as a number (`roundTrip_of_float`): the zeros
stand for each other, and what is not a number leads to no member.
-/

set_option autoImplicit false

namespace NamedConstants

/-! ## Equal floats -/

/-- A number equals zero when it is one of the zeros. -/
theorem BinaryFloat.equal_of_isZero {format : BinaryFormat} {x : BinaryFloat format}
    (zero : x.isZero = true) (y : BinaryFloat format) : y.equal x = y.isZero := by
  have number : ∀ z : BinaryFloat format, z.isZero = true → z.isNaN = false := by
    intro z zero
    exact decide_eq_false (beq_iff_eq.mp zero ▸ Nat.not_lt_zero _)
  rw [Bool.eq_iff_iff, equal_iff]
  constructor
  · rintro ⟨-, -, ⟨zero', -⟩ | rfl⟩
    · exact zero'
    · exact zero
  · exact fun zero' => ⟨number y zero', number x zero, Or.inl ⟨zero', zero⟩⟩

section Scans

variable {precision : FloatKind} (members : List (Member (.float precision)))
variable {x y : BinaryFloat precision.format}

/-- No member is found for what is not a number. -/
theorem scanForRaw?_of_isNaN (nan : x.isNaN = true) : scanForRaw? members (.float x) = none := by
  have differs : ∀ raw : Scalar (.float precision), raw.equal (.float x) = false := by
    intro raw
    cases raw with
    | float y => simp [Scalar.equal, BinaryFloat.equal, nan]
  exact List.find?_eq_none.mpr fun member _ => Bool.eq_false_iff.mp (differs member.raw)

/-- A search by zero does not see its sign. -/
theorem scanForRaw?_of_isZero (zero : x.isZero = true) (zero' : y.isZero = true) :
    scanForRaw? members (.float x) = scanForRaw? members (.float y) := by
  have agree : ∀ raw : Scalar (.float precision), raw.equal (.float x) = raw.equal (.float y) := by
    intro raw
    cases raw with
    | float z =>
        rw [Scalar.equal, Scalar.equal, BinaryFloat.equal_of_isZero zero,
          BinaryFloat.equal_of_isZero zero']
  unfold scanForRaw?
  simp only [agree]

/-- A search does not see with which bits something is not a number. -/
theorem scanForRaw?_of_back (number : x.isNaN = false → y = x)
    (still : x.isNaN = true → y.isNaN = true) :
    scanForRaw? members (.float y) = scanForRaw? members (.float x) := by
  cases nan : x.isNaN with
  | false => rw [number nan]
  | true => rw [scanForRaw?_of_isNaN members nan, scanForRaw?_of_isNaN members (still nan)]

end Scans

/-! ## Floats are read back -/

theorem toText_of_isNaN {format : BinaryFormat} {x : BinaryFloat format} (nan : x.isNaN = true) :
    x.toText = "NaN".toList :=
  if_pos nan

/-- A node holds the float; what is not a number may change its bits but not its
text. -/
theorem toScalar_ofScalar_float {precision : FloatKind} (x : BinaryFloat precision.format) :
    ∃ back : BinaryFloat precision.format,
      (Document.node (.ofScalar (.float x))).toScalar (.float precision) = .ok (.float back) ∧
        (Scalar.float back).toText = (Scalar.float x).toText ∧
          (x.isNaN = false → back = x) ∧ (x.isNaN = true → back.isNaN = true) := by
  have wide := precision.fractionBits_pos
  have still : x.isNaN = true → (x.cast : BinaryFloat precision.format).isNaN = true := by
    intro nan
    rw [BinaryFloat.cast_of_isNaN nan]
    exact BinaryFloat.isNaN_notANumber wide _
  refine ⟨x.cast, rfl, ?_, BinaryFloat.cast_self wide, still⟩
  cases nan : x.isNaN with
  | false => rw [BinaryFloat.cast_self wide nan]
  | true =>
      simp only [Scalar.toText, Scalar.writeText, toText_of_isNaN nan, toText_of_isNaN (still nan)]

section Codecs

variable {precision : FloatKind} {family : Family (.float precision)}
variable (valued : family.representation = .byValue)
variable (x : BinaryFloat precision.format) (target : Scalar (.float precision))

include valued

theorem binary_roundTrip_float :
    Encoding.binary.roundTrip family (.float x) target =
      family.resolve (.value (.float x)) (Text.shownBytes (Scalar.float x).toBytes) := by
  have read := Scalar.ofBytes_float x []
  rw [List.append_nil] at read
  simp only [Encoding.roundTrip, Codec.Binary.encode, Codec.Binary.decode, valued, read]
  rfl

theorem node_roundTrip_float :
    ∃ back : BinaryFloat precision.format,
      Encoding.node.roundTrip family (.float x) target =
          family.resolve (.value (.float back)) (Scalar.float x).toText ∧
        (x.isNaN = false → back = x) ∧ (x.isNaN = true → back.isNaN = true) := by
  obtain ⟨back, read, shown, same⟩ := toScalar_ofScalar_float x
  refine ⟨back, ?_, same⟩
  simp only [Encoding.roundTrip, Codec.Node.encode, Codec.Node.decode, valued, read, ← shown]
  rfl

theorem driver_roundTrip_float :
    ∃ back : BinaryFloat precision.format,
      Encoding.driver.roundTrip family (.float x) target =
          family.resolve (.value (.float back)) (DriverValue.float x.cast).toText ∧
        (x.isNaN = false → back = x) ∧ (x.isNaN = true → back.isNaN = true) := by
  obtain ⟨back, read, same⟩ := narrow_cast x
  have coerced : coerce (DriverValue.float x.cast).toValue (.float precision) =
      .ok (.float back) := read
  have candidate : Codec.Driver.readCandidate family target
      (DriverValue.float x.cast).toValue = .ok (.value (.float back)) := by
    rw [Codec.Driver.readCandidate, valued]
    dsimp only
    rw [scan_of_present rfl, coerced]
    rfl
  refine ⟨back, ?_, same⟩
  simp only [Encoding.roundTrip, Codec.Driver.encode, valued, Codec.Driver.ofScalar, bind,
    Except.bind, Codec.Driver.scan, candidate]
  rfl

end Codecs

/-- **A float that travels by value leads to the member that equals it.** From
its bytes, from a node and from a driver value comes back the first member whose
raw scalar equals the float as a number. None does if the float is not a number,
and the zeros lead to the same member. A number of 32 bits that a driver hands
back has all its bits, and what is not a number is still none. -/
theorem roundTrip_of_float {precision : FloatKind} (typeName : String) (insensitive : Bool)
    (members : List (Member (.float precision))) (x : BinaryFloat precision.format)
    (target : Scalar (.float precision)) :
    let family := Family.ofMembers typeName .byValue insensitive members
    let answer (source : String) : Result (Scalar (.float precision)) :=
      match scanForRaw? members (.float x) with
      | some member => .ok member.raw
      | none => .error (.unknownConstant source)
    Encoding.binary.roundTrip family (.float x) target =
        answer (Text.shownBytes (Scalar.float x).toBytes) ∧
      Encoding.node.roundTrip family (.float x) target = answer (Scalar.float x).toText ∧
      Encoding.driver.roundTrip family (.float x) target = answer (DriverValue.float x.cast).toText ∧
      (∀ y : BinaryFloat precision.format, (Scalar.float y).equal (.float x) = true ↔
        y.isNaN = false ∧ x.isNaN = false ∧ ((y.isZero = true ∧ x.isZero = true) ∨ y = x)) ∧
      (x.isNaN = true → scanForRaw? members (.float x) = none) ∧
      (x.isZero = true → ∀ y : BinaryFloat precision.format, y.isZero = true →
        scanForRaw? members (.float y) = scanForRaw? members (.float x)) ∧
      ∀ (y : Single) (initial : Scalar (.float .single)), ∃ back : Single,
        scan initial (DriverValue.float y.cast).toValue = .ok (@Scalar.float .single back) ∧
          (y.isNaN = false → back = y) ∧ (y.isNaN = true → back.isNaN = true) := by
  intro family answer
  have resolves : ∀ (back : BinaryFloat precision.format) (source : String),
      (x.isNaN = false → back = x) ∧ (x.isNaN = true → back.isNaN = true) →
        family.resolve (.value (.float back)) source = answer source := by
    intro back source same
    rw [Family.resolve_value_ofMembers _ _ _ _ rfl, scanForRaw?_of_back members same.1 same.2]
    cases found : scanForRaw? members (.float x) with
    | none => simp only [answer, found]
    | some member => simp only [answer, found]
  have valued : family.representation = .byValue := rfl
  refine ⟨?_, ?_, ?_, fun y => BinaryFloat.equal_iff y x, scanForRaw?_of_isNaN members,
    fun zero y zero' => scanForRaw?_of_isZero members zero' zero, fun y initial => ?_⟩
  · rw [binary_roundTrip_float valued]
    exact resolves x _ ⟨fun _ => rfl, id⟩
  · obtain ⟨back, trip, same⟩ := node_roundTrip_float valued x target
    rw [trip]
    exact resolves back _ same
  · obtain ⟨back, trip, same⟩ := driver_roundTrip_float valued x target
    rw [trip]
    exact resolves back _ same
  · exact @narrow_cast .single y

end NamedConstants
