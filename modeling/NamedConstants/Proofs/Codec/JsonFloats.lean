import NamedConstants.Proofs.BinaryFloat.DoubleRounding
import NamedConstants.Proofs.Codec.Floats
import NamedConstants.Proofs.Json.Number

/-!
# Floats that travel as JSON numbers

A float is written with the shortest decimal that reads back, but the reader of
JSON numbers rounds more than once. A member with a float comes back exactly when
the number that is read equals the float, and so it does if the decimal is short
(`json_roundTrip_of_float`): then all but the last rounding are exact, or do not
matter (`holds_of_short`). It does not come back in general
(`json_roundTrip_of_tiny`).
-/

set_option autoImplicit false

namespace NamedConstants

open BinaryFormat (double single Embeds)

/-! ## Short decimals -/

/-- The places behind the point that the reader of numbers deals with exactly. In
the smaller precision the number is rounded once more. -/
def FloatKind.exactPlaces : FloatKind → Nat
  | single => 12
  | double => 22

/-- A decimal that is read as the nearest float. -/
def Decimal.IsShort (precision : FloatKind) (decimal : Decimal) : Prop :=
  if 0 ≤ decimal.exponent then decimal.digits * tenTo decimal.exponent.toNat ≤ twoTo 63
  else decimal.digits < twoTo 53 ∧ (-decimal.exponent).toNat ≤ precision.exactPlaces

instance (precision : FloatKind) (decimal : Decimal) : Decidable (decimal.IsShort precision) :=
  inferInstanceAs (Decidable (if 0 ≤ decimal.exponent then
      decimal.digits * tenTo decimal.exponent.toNat ≤ twoTo 63
    else decimal.digits < twoTo 53 ∧ (-decimal.exponent).toNat ≤ precision.exactPlaces))

theorem FloatKind.exactPlaces_le (precision : FloatKind) : precision.exactPlaces ≤ 22 := by
  cases precision <;> decide

/-- The float of 64 bits nearest to a short decimal lies where the decimal does.
-/
theorem holds_of_short {precision : FloatKind} {pattern : Nat} {decimal : Decimal}
    (finite : pattern < precision.format.infinity)
    (reads : precision.format.Reads pattern decimal) (fractional : decimal.exponent < 0)
    (fits : decimal.digits < twoTo 53)
    (few : (-decimal.exponent).toNat ≤ precision.exactPlaces) :
    let rounded := double.round (decimal.units double) (tenTo (-decimal.exponent).toNat)
    rounded < double.infinity ∧ ∃ shift, Embeds precision.format double shift ∧
      (precision.format.readBack pattern).Holds (double.units rounded) (twoTo shift) := by
  cases precision with
  | single =>
      have embeds : Embeds single double (924 + 1) := BinaryFormat.single_embeds_double
      have lies : (single.readBack pattern).Holds (decimal.units single)
        (tenTo (-decimal.exponent).toNat) := reads
      have rounded := BinaryFormat.holds_of_rounded embeds (by decide) (by decide)
        (tenTo_pos _) finite lies (BinaryFormat.clear_of_decimal fits fractional few)
      rw [← decimal.units_of_embeds embeds] at rounded
      exact ⟨rounded.1, _, embeds, rounded.2⟩
  | double =>
      have nearest : double.round (decimal.units double) (tenTo (-decimal.exponent).toNat) =
          pattern := (BinaryFormat.round_eq_iff (by decide) (tenTo_pos _) finite).mpr reads
      rw [nearest]
      refine ⟨finite, 0, BinaryFormat.embeds_self double, ?_⟩
      refine (BinaryFormat.round_eq_iff (by decide) (twoTo_pos 0) finite).mp ?_
      exact Json.round_double_units finite

/-! ## Floats are read back -/

section Floats

variable {precision : FloatKind} {x : BinaryFloat precision.format}

/-- The text of a positive or negative number is its shortest decimal. -/
theorem toText_of_finite (positive : 0 < x.pattern) (finite : x.pattern < precision.format.infinity) :
    x.toText =
      if x.negative then '-' :: (precision.format.shortest .up x.pattern).positional
      else (precision.format.shortest .up x.pattern).positional := by
  have nonzero : x.isZero = false := beq_eq_false_iff_ne.mpr (Nat.ne_of_gt positive)
  rw [BinaryFloat.toText, BinaryFloat.isNaN_eq_false finite, BinaryFloat.isInfinite_eq_false finite,
    nonzero]
  rfl

/-- A whole number is rounded once. -/
theorem ofInt_eq_of_reads {decimal : Decimal} (finite : x.pattern < precision.format.infinity)
    (reads : precision.format.Reads x.pattern decimal) (whole : 0 ≤ decimal.exponent) (value : Int)
    (size : value.natAbs = decimal.digits * tenTo decimal.exponent.toNat)
    (sign : decide (value < 0) = x.negative) :
    (BinaryFloat.ofInt value : BinaryFloat precision.format) = x := by
  have unscaled : (-decimal.exponent).toNat = 0 := by omega
  have rounded := (BinaryFormat.round_eq_iff precision.fractionBits_pos (tenTo_pos _) finite).mpr reads
  rw [Decimal.units, unscaled] at rounded
  rw [BinaryFloat.ofInt, BinaryFloat.ofRatio, size, sign, Nat.mul_right_comm]
  exact (congrArg _ rounded).trans x.ofPattern_pattern

/-- A float with a short decimal is read back from its text. -/
theorem ofJson?_of_short (positive : 0 < x.pattern) (finite : x.pattern < precision.format.infinity)
    (short : (precision.format.shortest .up x.pattern).IsShort precision) :
    ∃ value, Json.ofText? x.toText = some value ∧
      Scalar.ofJson? (.float precision) value = some (.float x) := by
  obtain ⟨reads, nonzero⟩ := BinaryFormat.reads_shortest .up positive x.pattern_lt
  rw [toText_of_finite positive finite]
  generalize precision.format.shortest .up x.pattern = decimal at *
  unfold Decimal.IsShort at short
  split at short
  case isTrue whole =>
    have size := Nat.mul_pos (Nat.pos_of_ne_zero nonzero) (tenTo_pos decimal.exponent.toNat)
    refine ⟨_, Json.ofText?_whole x.negative nonzero whole (Nat.le_trans short (by decide)), ?_⟩
    have back := ofInt_eq_of_reads finite reads whole
    generalize decimal.digits * tenTo decimal.exponent.toNat = number at *
    rw [Json.wholeNumber_eq x.negative size short]
    refine congrArg (some ∘ Scalar.float) (back _ ?_ ?_)
    · split <;> omega
    · cases x.negative with
      | false => exact decide_eq_false (by simp)
      | true => exact decide_eq_true (by simp only [if_true]; omega)
  case isFalse fractional =>
    have below := Int.not_le.mp fractional
    obtain ⟨fits, few⟩ := short
    obtain ⟨inRange, shift, embeds, holds⟩ := holds_of_short finite reads below fits few
    have converted := BinaryFloat.cast_of_holds embeds precision.fractionBits_pos finite inRange
      holds x.negative
    refine ⟨_, Json.ofText?_fraction x.negative nonzero below
      (Nat.le_trans (Nat.le_of_lt fits) (by decide)), ?_⟩
    rw [Json.divideByPower_of_short fits below (Nat.le_trans few precision.exactPlaces_le),
      Json.signed_ofPattern]
    exact congrArg (some ∘ Scalar.float) (converted.trans x.ofPattern_pattern)

/-- Zero is read back from its text. -/
theorem ofJson?_of_isZero (zero : x.isZero = true) :
    ∃ value y, Json.ofText? x.toText = some value ∧
      Scalar.ofJson? (.float precision) value = some (.float y) ∧ y.equal x = true := by
  have same : x = BinaryFloat.ofPattern x.negative 0 := by
    rw [← beq_iff_eq.mp zero, x.ofPattern_pattern]
  rw [same]
  cases precision with
  | single =>
      cases x.negative with
      | false => exact ⟨_, _, rfl, rfl, by decide +kernel⟩
      | true => exact ⟨_, _, rfl, rfl, by decide +kernel⟩
  | double =>
      cases x.negative with
      | false => exact ⟨_, _, rfl, rfl, by decide +kernel⟩
      | true => exact ⟨_, _, rfl, rfl, by decide +kernel⟩

end Floats

/-! ## Members are read back -/

theorem jsonOfBytes_encode_of_none {written : List Char} (unread : Json.ofText? written = none) :
    Scalar.jsonOfBytes (Text.encode written) = .error (.json "not a JSON document") := by
  rw [Scalar.jsonOfBytes, Text.decode_encode]
  dsimp only
  rw [unread]

/-- What comes back is what the number that was read is looked up as. -/
theorem json_roundTrip_float_eq_ok_iff {precision : FloatKind} {family : Family (.float precision)}
    (valued : family.representation = .byValue) {x : BinaryFloat precision.format}
    {target back : Scalar (.float precision)} :
    Encoding.json.roundTrip family (.float x) target = .ok back ↔
      ∃ value raw, Json.ofText? x.toText = some value ∧
        Scalar.ofJson? (.float precision) value = some raw ∧
          family.resolve (.value raw) (String.ofList x.toText) = .ok back := by
  simp only [Encoding.roundTrip, Codec.Json.encode, Codec.Json.decode, valued,
    Text.lossyString_encode, Codec.Json.readValue, Codec.Json.writeRaw, Scalar.writeText]
  cases read : Json.ofText? x.toText with
  | none =>
      rw [jsonOfBytes_encode_of_none read]
      constructor
      · intro returned
        cases returned
      · rintro ⟨value, raw, other, -⟩
        cases other
  | some value =>
      rw [jsonOfBytes_encode read]
      simp only [bind, Except.bind]
      cases taken : Scalar.ofJson? (.float precision) value with
      | none =>
          constructor
          · intro returned
            cases returned
          · rintro ⟨value', raw, same, other, -⟩
            rw [← Option.some.inj same, taken] at other
            cases other
      | some raw =>
          constructor
          · exact fun returned => ⟨value, raw, rfl, taken, returned⟩
          · rintro ⟨value', raw', same, other, returned⟩
            rw [← Option.some.inj same, taken] at other
            rwa [← Option.some.inj other] at returned

/-- **A member with a finite float comes back exactly when the number that is read
equals the float.** That is so for zero, for whole numbers up to `2 ^ 63`, and for
numbers whose shortest decimal has digits of 53 bits and at most 22 places, or 12 in
the smaller precision. -/
theorem json_roundTrip_of_float {precision : FloatKind} (typeName : String) (insensitive : Bool)
    (members : List (Member (.float precision))) (target : Scalar (.float precision))
    (x : BinaryFloat precision.format) (finite : x.isFinite = true)
    (listed : Scalar.float x ∈ members.map (·.raw)) :
    let family := Family.ofMembers typeName .byValue insensitive members
    let returns : Prop := ∃ back : BinaryFloat precision.format,
      Encoding.json.roundTrip family (.float x) target = .ok (.float back) ∧ back.equal x = true
    (returns ↔ ∃ (value : Json) (y : BinaryFloat precision.format),
      Json.ofText? x.toText = some value ∧
        Scalar.ofJson? (.float precision) value = some (.float y) ∧ y.equal x = true) ∧
    (x.isZero = true ∨ (precision.format.shortest .up x.pattern).IsShort precision → returns) := by
  intro family returns
  have valued : family.representation = .byValue := rfl
  have iff : returns ↔ ∃ (value : Json) (y : BinaryFloat precision.format),
      Json.ofText? x.toText = some value ∧
        Scalar.ofJson? (.float precision) value = some (.float y) ∧ y.equal x = true := by
    constructor
    · rintro ⟨back, returned, same⟩
      have same : (Scalar.float back).equal (.float x) = true := same
      obtain ⟨value, raw, read, taken, resolved⟩ :=
        (json_roundTrip_float_eq_ok_iff valued).mp returned
      cases raw with
      | float y =>
          refine ⟨value, y, read, taken, ?_⟩
          rw [Family.resolve_value_ofMembers _ _ _ _ rfl] at resolved
          split at resolved
          · next member found =>
              have equal := (scanForRaw?_eq_some found).2
              rw [Except.ok.inj resolved] at equal
              exact Scalar.equal_trans rfl (Scalar.equal_symm rfl equal) same
          · cases resolved
    · rintro ⟨value, y, read, taken, same⟩
      have same : (Scalar.float y).equal (.float x) = true := same
      obtain ⟨member, listed, own⟩ := List.mem_map.mp listed
      have equal : member.raw.equal (.float y) = true := own ▸ Scalar.equal_symm rfl same
      obtain ⟨found, answer⟩ := Option.isSome_iff_exists.mp (scanForRaw?_isSome listed equal)
      have first := (scanForRaw?_eq_some answer).2
      cases back : found.raw with
      | float back' =>
          rw [back] at first
          refine ⟨back', ?_, Scalar.equal_trans rfl first same⟩
          refine (json_roundTrip_float_eq_ok_iff valued).mpr ⟨value, .float y, read, taken, ?_⟩
          rw [Family.resolve_value_ofMembers _ _ _ _ rfl, answer]
          exact congrArg Except.ok back
  refine ⟨iff, fun short => iff.mpr ?_⟩
  rcases short with zero | short
  · exact ofJson?_of_isZero zero
  · by_cases zero : x.isZero = true
    · exact ofJson?_of_isZero zero
    · have positive : 0 < x.pattern := Nat.pos_of_ne_zero fun none => zero (beq_iff_eq.mpr none)
      have finite := of_decide_eq_true finite
      obtain ⟨value, read, taken⟩ := ofJson?_of_short positive finite short
      refine ⟨value, x, read, taken, ?_⟩
      exact (BinaryFloat.equal_iff x x).mpr
        ⟨BinaryFloat.isNaN_eq_false finite, BinaryFloat.isNaN_eq_false finite, Or.inr rfl⟩

/-- The tenth comes back in the smaller precision. -/
theorem json_roundTrip_of_tenth :
    let tenth : Single := .ofPattern false 0x3dcccccd
    let members : List (Member (.float .single)) := [⟨.float tenth, "Tenth", [], true⟩]
    let family := Family.ofMembers "Share" .byValue false members
    tenth.isFinite = true ∧ (@Scalar.float .single tenth) ∈ members.map (·.raw) ∧
      ∃ back : Single, Encoding.json.roundTrip family (@Scalar.float .single tenth) (.default _) =
        .ok (@Scalar.float .single back) ∧ back.equal tenth = true := by
  intro tenth members family
  have finite : tenth.isFinite = true := by decide +kernel
  have listed : (@Scalar.float .single tenth) ∈ members.map (·.raw) := List.mem_singleton.mpr rfl
  have short : (single.shortest .up tenth.pattern).IsShort .single := by decide +kernel
  obtain ⟨-, returns⟩ := @json_roundTrip_of_float .single "Share" false members
    (.default _) tenth finite listed
  exact ⟨finite, listed, returns (Or.inr short)⟩

/-- A member with a small number does not come back, since the next number is
read. -/
theorem json_roundTrip_of_tiny :
    let tiny : Double := .ofPattern false 0x3b282db34012b251
    let members : List (Member (.float .double)) := [⟨@Scalar.float .double tiny, "Tiny", [], true⟩]
    let family := Family.ofMembers "Size" .byValue false members
    tiny.isFinite = true ∧ (@Scalar.float .double tiny) ∈ members.map (·.raw) ∧
      ∀ back, Encoding.json.roundTrip family (@Scalar.float .double tiny) (.default _) ≠
        .ok back := by
  intro tiny members family
  have finite : tiny.pattern < double.infinity := by decide +kernel
  have listed : (@Scalar.float .double tiny) ∈ members.map (·.raw) := List.mem_singleton.mpr rfl
  refine ⟨decide_eq_true finite, listed, fun back returned => ?_⟩
  have shortest : FloatKind.double.format.shortest .up tiny.pattern = ⟨1, -23⟩ := by decide +kernel
  have written := @toText_of_finite .double tiny (by decide +kernel) finite
  rw [shortest] at written
  have next : Json.divideByPower (.ofInt (1 : Nat)) 23 = .ofPattern false 0x3b282db34012b252 := by
    rw [Json.divideByPower, if_pos (by decide)]
    decide +kernel
  have read : Json.ofText? tiny.toText = some (.float (.ofPattern false 0x3b282db34012b252)) := by
    have parsed := @Json.ofText?_fraction tiny.negative ⟨1, -23⟩ (by decide) (by decide) (by decide)
    rw [← written] at parsed
    exact parsed.trans (congrArg (fun x => some (Json.signed false x)) next)
  obtain ⟨value, raw, readAs, taken, resolved⟩ := (json_roundTrip_float_eq_ok_iff rfl).mp returned
  obtain rfl := Option.some.inj (read.symm.trans readAs)
  have missed : scanForRaw? members raw = none := by
    rw [← Option.some.inj taken]
    decide +kernel
  rw [Family.resolve_value_ofMembers _ _ _ _ rfl, missed] at resolved
  cases resolved

end NamedConstants
