import NamedConstants.Proofs.BinaryFloat.FewestDigits
import NamedConstants.Proofs.Scalar.FixedForm
import NamedConstants.Proofs.Scalar.FloatText

/-!
# The text form of a float

A float that is a number is decoded from its text form bit by bit (`ofText_toText_of_number`). The
text form of a finite float spells a decimal to which this float is the nearest
(`isNearest_of_decoded`) and with fewer digits than which no text is decoded as the float
(`length_written_le_of_decoded`). Infinity is written as its name, which the check of the range
lets through.
-/

set_option autoImplicit false

namespace NamedConstants

open BinaryFloat

/-! ## Infinity -/

/-- The text form of infinity says infinity. -/
theorem BinaryFloat.spelling?_infinity {format : BinaryFormat} (negative : Bool) :
    spelling? (infinity negative : BinaryFloat format).toText = some (.infinity negative) := by
  have sign : (infinity negative : BinaryFloat format).negative = negative := rfl
  have positive : spelling? "inf".toList = some (.infinity false) := rfl
  have below : spelling? ('-' :: "inf".toList) = some (.infinity true) := rfl
  rw [toText, isNaN_infinity, isInfinite_infinity, sign, if_neg Bool.false_ne_true]
  cases negative with
  | true => exact below
  | false => exact positive

section Decoded

variable {kind : FloatKind}

/-- Infinity is decoded from its text form. -/
theorem ofText_toText_infinity (negative : Bool) :
    Scalar.ofText (Scalar.float (infinity negative : BinaryFloat kind.format)).toText
      (.float kind) = .ok (.float (infinity negative)) := by
  refine toOption_eq_some_iff.mp ?_
  rw [Scalar.ofText, Scalar.orUnreadable, toOption_mapError, Scalar.toText, String.toList_ofList,
    Scalar.writeText, toOption_floatOfText, spelling?_infinity, Option.bind_some, Spelling.inRange]

/-! ## Decimals -/

section Decimals

variable {text : String} {negative : Bool} {size : Decimal} {x : BinaryFloat kind.format}
variable (spelled : spelling? text.toList = some (.decimal negative size))
variable (decoded : Scalar.ofText text (.float kind) = .ok (.float x))

include spelled decoded

/-- A decimal is decoded as the float nearest to it, which is finite. -/
theorem nearest_of_decoded :
    x.negative = negative ∧ x.isFinite = true ∧ size.nearest kind.format = x.pattern := by
  have found := toOption_eq_some_iff.mpr decoded
  rw [Scalar.ofText, Scalar.orUnreadable, toOption_mapError, toOption_floatOfText, spelled,
    Option.bind_some, Spelling.inRange] at found
  split at found
  · cases found
  · rename_i within
    have most := nearest_le_infinity size kind.format
    have pattern : x.pattern = size.nearest kind.format :=
      Scalar.some_float_inj.mp found ▸ pattern_ofPattern_of_le most negative
    have sign : x.negative = negative := Scalar.some_float_inj.mp found ▸ rfl
    refine ⟨sign, decide_eq_true ?_, pattern.symm⟩
    rw [pattern]
    exact Nat.lt_of_le_of_ne most within

/-- **A decimal is decoded with correct rounding**: no float is nearer to it, and if two are equally
near, the result is the one with the even pattern. -/
theorem isNearest_of_decoded :
    kind.format.IsNearest x.pattern (size.units kind.format) (tenTo (-size.exponent).toNat) := by
  obtain ⟨-, finite, nearest⟩ := nearest_of_decoded spelled decoded
  have holds := (BinaryFormat.round_eq_iff kind.fractionBits_pos (tenTo_pos _)
    (of_decide_eq_true finite)).mp nearest
  exact holds.isNearest (tenTo_pos _)

/-- **No text with fewer digits is decoded as the float.** -/
theorem length_written_le_of_decoded :
    (decimalDigits x.written.digits).length ≤ (decimalDigits size.digits).length := by
  obtain ⟨-, finite, nearest⟩ := nearest_of_decoded spelled decoded
  exact length_written_le kind.fractionBits_pos finite nearest

end Decimals

end Decoded

/-! ## The round trip -/

/-- **A float that is a number is decoded from its text form**, bit by bit. If it is finite, the
text form is the positional text of a decimal behind the sign. The float is the one of its own width
that is nearest to this decimal, ties to the even one, and the decimal has the fewest digits of all
decimals whose texts are decoded as the float. -/
theorem ofText_toText_of_number (kind : FloatKind) {bits : Nat}
    (fits : bits < twoTo (8 * kind.byteWidth))
    (number : (BinaryFloat.ofBits bits : BinaryFloat kind.format).isNaN = false) :
    let x : BinaryFloat kind.format := BinaryFloat.ofBits bits
    (Scalar.ofText (Scalar.float x).toText (.float kind) = .ok (.float x) ∧ x.toBits = bits) ∧
    (x.isFinite = true → ∃ size : Decimal,
      (Scalar.float x).toText.toList =
        (if x.negative then ['-'] else []) ++ size.positional ∧
      kind.format.IsNearest x.pattern (size.units kind.format) (tenTo (-size.exponent).toNat) ∧
      ∀ (text : String) (negative : Bool) (other : Decimal),
        spelling? text.toList = some (.decimal negative other) →
        Scalar.ofText text (.float kind) = .ok (.float x) →
        (decimalDigits size.digits).length ≤ (decimalDigits other.digits).length) := by
  intro x
  refine ⟨⟨?_, toBits_ofBits (kind.bits_eq ▸ fits)⟩, fun finite => ?_⟩
  · rcases x.sorts with nan | infinite | finite
    · exact absurd (number.symm.trans nan) Bool.false_ne_true
    · rw [infinite]
      exact ofText_toText_infinity x.negative
    · exact ofText_toText_float (decide_eq_true finite)
  · have spelled : spelling? (Scalar.float x).toText.toList =
        some (.decimal x.negative x.written.spelled) := by
      rw [Scalar.toText, String.toList_ofList, Scalar.writeText, spelling?_toText finite]
    have nearest := isNearest_of_decoded spelled (ofText_toText_float finite)
    rw [Decimal.units_spelled, Decimal.places_spelled] at nearest
    refine ⟨x.written, ?_, ?_, fun text negative other said => length_written_le_of_decoded said⟩
    · rw [Scalar.toText, String.toList_ofList, Scalar.writeText, toText_of_isFinite finite]
      cases x.negative with
      | true => rfl
      | false => rfl
    · exact nearest

/-- The largest float of 32 bits and negative infinity are decoded from their text forms. -/
theorem ofText_toText_of_largest :
    Scalar.ofText (@Scalar.float .single (BinaryFloat.ofBits 0x7f7fffff)).toText (.float .single) =
        .ok (@Scalar.float .single (BinaryFloat.ofBits 0x7f7fffff)) ∧
      Scalar.ofText (@Scalar.float .single (BinaryFloat.ofBits 0xff800000)).toText
        (.float .single) = .ok (@Scalar.float .single (BinaryFloat.ofBits 0xff800000)) :=
  ⟨(ofText_toText_of_number .single (by decide) (by decide)).1.1,
    (ofText_toText_of_number .single (by decide) (by decide)).1.1⟩

end NamedConstants
