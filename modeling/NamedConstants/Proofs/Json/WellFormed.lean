import NamedConstants.Proofs.BinaryFloat.Conversion
import NamedConstants.Proofs.BinaryFloat.Positional
import NamedConstants.Proofs.BinaryFloat.Shortest
import NamedConstants.Proofs.Json.Grammar
import NamedConstants.Proofs.Json.Token

/-!
# What is written is JSON

Strings, numbers and whole values are written as the grammar has them
(`isString_writeString`, `isNumber_integerText`, `isNumber_floatText`, `isValue_write`). The
positional text of a finite float is a JSON number too, although it is no writer of JSON
that makes it (`isNumber_toText`): a shortest decimal is not zero, so no zero stands in
front of its digits except the one in front of a point.
-/

set_option autoImplicit false

namespace NamedConstants.Json

/-! ## Strings -/

/-- Each character is written as one piece. -/
theorem isPiece_writtenChar (c : Char) : IsPiece (writtenChar c) := by
  rw [writtenChar]
  -- the seven escapes of one letter
  iterate 7
    split
    · exact .escape (by decide)
  split
  · next small =>
    have check : ∀ k : Fin 0x20, (Text.hexByte k.val.toUInt8).all isHexDigit = true := by decide
    have four : ('0' :: '0' :: Text.hexByte c.toNat.toUInt8).length = 4 := rfl
    have hex := List.all_eq_true.mp (check ⟨c.toNat, small⟩)
    exact .number four (List.forall_mem_cons.mpr ⟨rfl, List.forall_mem_cons.mpr ⟨rfl, hex⟩⟩)
  · next notQuote notBackslash _ _ _ _ _ visible =>
    exact .plain (Nat.not_lt.mp visible) (mt beq_iff_eq.mpr notQuote)
      (mt beq_iff_eq.mpr notBackslash)

/-- **A string is written as a JSON string.** -/
theorem isString_writeString (text : String) : IsString (writeString text) := by
  refine ⟨text.toList.map writtenChar, fun piece member => ?_, ?_⟩
  · obtain ⟨c, -, rfl⟩ := List.mem_map.mp member
    exact isPiece_writtenChar c
  · rw [writeString, List.flatMap]

/-! ## Digits -/

/-- Digits are the ones of a whole number if a zero in front stands alone. -/
theorem IsWhole.of_leadingZero {text : List Char} (all : AllDigits text) (written : text ≠ [])
    (leading : (text.head? == some '0' && text.length != 1) = false) : IsWhole text := by
  obtain ⟨c, rest, rfl⟩ := List.exists_cons_of_ne_nil written
  by_cases zero : c = '0'
  · subst zero
    have alone : rest = [] := by simpa using leading
    rw [alone]
    exact .zero
  · exact .digits all zero

theorem isWhole_decimalDigits (n : Nat) : IsWhole (decimalDigits n) :=
  .of_leadingZero (allDigits_decimalDigits n) (decimalDigits_ne_nil n) (leadingZero_decimalDigits n)

theorem IsWhole.isSize {text : List Char} (whole : IsWhole text) : IsSize text := by
  have size := IsSize.parts whole .none .none
  rwa [List.append_nil, List.append_nil] at size

theorem IsWhole.isSize_point {text digits : List Char} (whole : IsWhole text)
    (all : AllDigits digits) (written : digits ≠ []) : IsSize (text ++ '.' :: digits) := by
  have size := IsSize.parts whole (.point all written) .none
  rwa [List.append_nil] at size

/-- An integer is written as a JSON number. -/
theorem isNumber_integerText (value : Int) : IsNumber (integerText value) := by
  rw [integerText]
  split
  · exact .minus (isWhole_decimalDigits _).isSize
  · exact .unsigned (isWhole_decimalDigits _).isSize

/-! ## Positional texts -/

theorem isSize_positional {decimal : Decimal} (nonzero : decimal.digits ≠ 0) :
    IsSize decimal.positional := by
  have whole : IsWhole decimal.whole :=
    .of_leadingZero decimal.allDigits_whole decimal.whole_ne_nil (decimal.leadingZero_whole nonzero)
  rcases Int.lt_or_le decimal.exponent 0 with below | above
  · have some : decimal.fraction ≠ [] := by
      rw [← List.length_pos_iff, decimal.length_fraction]
      omega
    rw [decimal.positional_of_fraction below]
    exact whole.isSize_point decimal.allDigits_fraction some
  · rw [decimal.positional_of_whole above]
    exact whole.isSize

theorem isNumber_signed {size : List Char} (sized : IsSize size) (negative : Bool) :
    IsNumber (if negative then '-' :: size else size) := by
  cases negative with
  | false => exact .unsigned sized
  | true => exact .minus sized

/-- **The positional text of a finite float is a JSON number.** -/
theorem isNumber_toText {format : BinaryFormat} {x : BinaryFloat format}
    (finite : x.isFinite = true) : IsNumber x.toText := by
  have below : x.pattern < format.infinity := of_decide_eq_true finite
  rw [BinaryFloat.toText, BinaryFloat.isNaN_eq_false below, BinaryFloat.isInfinite_eq_false below]
  refine isNumber_signed ?_ x.negative
  simp only [Bool.false_eq_true, if_false]
  split
  case isTrue => exact IsWhole.zero.isSize
  case isFalse nonzero =>
    have positive : 0 < x.pattern := Nat.pos_of_ne_zero fun zero => nonzero (beq_iff_eq.mpr zero)
    exact isSize_positional (BinaryFormat.reads_shortest .up positive x.pattern_lt).2

/-! ## Decimals with a point or an exponent -/

theorem isExponent_mark (exponent : Int) :
    IsExponent ('e' :: (if exponent < 0 then '-' else '+') :: decimalDigits exponent.natAbs) := by
  have all := allDigits_decimalDigits exponent.natAbs
  have written := decimalDigits_ne_nil exponent.natAbs
  split
  · have signed : ['-'] ∈ [[], ['+'], ['-']] := by decide
    exact .mark (by decide) signed all written
  · have signed : ['+'] ∈ [[], ['+'], ['-']] := by decide
    exact .mark (by decide) signed all written

/-- A decimal that is not zero is written as a JSON number. -/
theorem isSize_decimalText {decimal : Decimal} (nonzero : decimal.digits ≠ 0) :
    IsSize (decimalText decimal) := by
  have all := allDigits_decimalDigits decimal.digits
  obtain ⟨c, rest, text, first⟩ := decimalDigits_eq_cons nonzero
  unfold decimalText
  dsimp only
  rw [text] at all ⊢
  split
  case isTrue =>
    have whole : IsWhole (c :: rest ++ List.replicate decimal.exponent.toNat '0') :=
      .digits (all.append (AllDigits.replicate_zero _)) first
    exact whole.isSize_point (AllDigits.replicate_zero 1) (List.cons_ne_nil _ _)
  case isFalse fractional =>
    split
    case isTrue among =>
      obtain ⟨places, point⟩ : ∃ places, (((c :: rest).length : Int) + decimal.exponent).toNat =
          places + 1 := ⟨_, (Nat.succ_pred_eq_of_pos (by omega)).symm⟩
      have behind : (c :: rest).drop (places + 1) ≠ [] := by
        rw [← List.length_pos_iff, List.length_drop]
        omega
      rw [point, List.take_succ_cons]
      refine IsWhole.isSize_point (.digits ?_ first) ?_ behind
      · exact fun d member => all d (List.mem_of_mem_take (List.take_succ_cons ▸ member))
      · exact fun d member => all d (List.mem_of_mem_drop member)
    case isFalse =>
      split
      case isTrue =>
        exact IsWhole.zero.isSize_point ((AllDigits.replicate_zero _).append all)
          (List.append_ne_nil_of_right_ne_nil _ (List.cons_ne_nil _ _))
      case isFalse =>
        cases rest with
        | nil => exact .parts (.digits all first) .none (isExponent_mark _)
        | cons d rest =>
            have whole : IsWhole [c] := .digits (AllDigits.nil.cons all.head) first
            exact .parts whole (.point all.tail (List.cons_ne_nil _ _)) (isExponent_mark _)

/-- **A float is written as a JSON number.** -/
theorem isNumber_floatText {format : BinaryFormat} (x : BinaryFloat format) :
    IsNumber (floatText x) := by
  refine isNumber_signed ?_ x.negative
  split
  case isTrue => exact IsWhole.zero.isSize_point (AllDigits.replicate_zero 1) (List.cons_ne_nil _ _)
  case isFalse nonzero =>
    have positive : 0 < x.pattern := Nat.pos_of_ne_zero fun zero => nonzero (beq_iff_eq.mpr zero)
    exact isSize_decimalText (BinaryFormat.reads_shortest .even positive x.pattern_lt).2

/-! ## Values -/

theorem writeMembers_cons_cons (key : String) (value : Json) (next : String × Json)
    (rest : List (String × Json)) :
    writeMembers ((key, value) :: next :: rest) =
      writeString key ++ ':' :: (write value ++ ',' :: writeMembers (next :: rest)) := by
  rw [writeMembers, List.append_assoc, List.cons_append]
  exact List.cons_ne_nil next rest

mutual

/-- **A value is written as the grammar has it.** -/
theorem isValue_write : (value : Json) → IsValue value.write
  | .null => .word (by decide)
  | .bool true => .word (by decide)
  | .bool false => .word (by decide)
  | .integer value => .number (isNumber_integerText value)
  | .float value => .number (isNumber_floatText value)
  | .string value => .string (isString_writeString value)
  | .array [] => .emptyArray isSpaces_nil
  | .array (value :: rest) => .array (isElements_writeElements (value :: rest) (by simp))
  | .object [] => .emptyObject isSpaces_nil
  | .object (member :: rest) => .object (isMembers_writeMembers (member :: rest) (by simp))

theorem isElements_writeElements :
    (elements : List Json) → elements ≠ [] → IsElements (writeElements elements)
  | [], written => absurd rfl written
  | [value], _ => .last (isValue_write value).isElement
  | value :: next :: rest, _ =>
    .more (isValue_write value).isElement (isElements_writeElements (next :: rest) (by simp))

theorem isMembers_writeMembers :
    (members : List (String × Json)) → members ≠ [] → IsMembers (writeMembers members)
  | [], written => absurd rfl written
  | [(key, value)], _ =>
    .last isSpaces_nil (isString_writeString key) isSpaces_nil (isValue_write value).isElement
  | (key, value) :: next :: rest, _ => by
    rw [writeMembers_cons_cons]
    exact .more isSpaces_nil (isString_writeString key) isSpaces_nil (isValue_write value).isElement
      (isMembers_writeMembers (next :: rest) (by simp))

end

/-- Nothing but null is written as the word for it. -/
theorem write_eq_null_iff {value : Json} : value.write = "null".toList ↔ value = .null := by
  have number {text : List Char} (written : IsNumber text) : text ≠ "null".toList := by
    obtain ⟨c, rest, rfl, digit | rfl⟩ := written.exists_start
    · intro same
      rw [(List.cons.inj same).1] at digit
      exact absurd digit (by decide)
    · intro same
      exact absurd (List.cons.inj same).1 (by decide)
  constructor
  · intro written
    cases value with
    | null => rfl
    | bool value => cases value <;> exact absurd written (by decide)
    | integer value => exact absurd written (number (isNumber_integerText value))
    | float value => exact absurd written (number (isNumber_floatText value))
    | string value => exact absurd (List.cons.inj written).1 (by decide)
    | array elements => exact absurd (List.cons.inj written).1 (by decide)
    | object members => exact absurd (List.cons.inj written).1 (by decide)
  · rintro rfl
    rfl

end NamedConstants.Json
