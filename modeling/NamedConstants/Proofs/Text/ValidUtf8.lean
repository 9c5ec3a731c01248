import NamedConstants.Proofs.Text.Utf8

/-!
# Valid UTF-8

What a reader takes for a character are the bytes of this character
(`encodeChar_of_utf8Step`). So the strict reader accepts the bytes of texts and
nothing else (`decode_eq_ok_iff`), and the lenient reader loses nothing exactly
on these: a text in which something was replaced has other bytes than those it
was read from (`encode_decodeLossy_iff`).
-/

set_option autoImplicit false

namespace NamedConstants.Text

/-! ## The bytes of a code point -/

theorem toNat_ofNat {n : Nat} (valid : n.isValidChar) : (Char.ofNat n).toNat = n := by
  rw [Char.ofNat, dif_pos valid]
  rfl

theorem encodeChar_one {n : Nat} (narrow : n < 0x80) :
    String.utf8EncodeChar (Char.ofNat n) = [UInt8.ofNat n] := by
  have value : (Char.ofNat n).val.toNat = n := toNat_ofNat (Or.inl (by omega))
  rw [String.utf8EncodeChar, value, if_pos (by omega)]

theorem encodeChar_two {n : Nat} (low : 0x80 ≤ n) (high : n < 0x800) :
    String.utf8EncodeChar (Char.ofNat n) =
      [UInt8.ofNat (n / 64 % 32 + 0xC0), UInt8.ofNat (n % 64 + 0x80)] := by
  have value : (Char.ofNat n).val.toNat = n := toNat_ofNat (Or.inl (by omega))
  rw [String.utf8EncodeChar, value, if_neg (by omega), if_pos (by omega)]

theorem encodeChar_three {n : Nat} (low : 0x800 ≤ n) (high : n < 0x10000)
    (notSurrogate : n < 0xD800 ∨ 0xDFFF < n) :
    String.utf8EncodeChar (Char.ofNat n) =
      [UInt8.ofNat (n / 4096 % 16 + 0xE0), UInt8.ofNat (n / 64 % 64 + 0x80),
        UInt8.ofNat (n % 64 + 0x80)] := by
  have valid : n.isValidChar := notSurrogate.imp id fun above => ⟨above, by omega⟩
  have value : (Char.ofNat n).val.toNat = n := toNat_ofNat valid
  rw [String.utf8EncodeChar, value, if_neg (by omega), if_neg (by omega), if_pos (by omega)]

theorem encodeChar_four {n : Nat} (low : 0x10000 ≤ n) (high : n < 0x110000) :
    String.utf8EncodeChar (Char.ofNat n) =
      [UInt8.ofNat (n / 262144 % 8 + 0xF0), UInt8.ofNat (n / 4096 % 64 + 0x80),
        UInt8.ofNat (n / 64 % 64 + 0x80), UInt8.ofNat (n % 64 + 0x80)] := by
  have value : (Char.ofNat n).val.toNat = n := toNat_ofNat (Or.inr ⟨by omega, high⟩)
  rw [String.utf8EncodeChar, value, if_neg (by omega), if_neg (by omega), if_neg (by omega)]

/-! ## One character -/

theorem ofNat_eq_of_toNat (byte : UInt8) {n : Nat} (same : byte.toNat = n) :
    UInt8.ofNat n = byte := by
  rw [← same, UInt8.ofNat_toNat]

/-- The six bits of a byte that continues a character. -/
theorem toNat_of_isContinuation {byte : UInt8} (next : isContinuation byte = true) :
    byte.toNat = continuationBits byte + 0x80 ∧ continuationBits byte < 64 := by
  have range := (inRange_iff _ _ _).mp next
  have bits : continuationBits byte = byte.toNat - 0x80 := rfl
  constructor
  · rw [bits, Nat.sub_add_cancel range.1]
  · rw [bits]
    exact Nat.sub_lt_left_of_lt_add range.1 (Nat.lt_succ_of_le range.2)

/-- The second byte of three, as the number it adds to. -/
theorem toNat_of_isSecondOfThree {lead : Nat} {second : UInt8}
    (range : 0xE0 ≤ lead ∧ lead ≤ 0xEF) (next : isSecondOfThree lead second.toNat = true) :
    second.toNat = continuationBits second + 0x80 ∧ continuationBits second < 64 ∧
      (lead = 0xE0 → 32 ≤ continuationBits second) ∧
      (lead = 0xED → continuationBits second < 32) := by
  have bits : continuationBits second = second.toNat - 0x80 := rfl
  simp only [isSecondOfThree, Bool.or_eq_true, Bool.and_eq_true, decide_eq_true_eq, beq_iff_eq,
    bne_iff_ne] at next
  omega

/-- The second byte of four, as the number it adds to. -/
theorem toNat_of_isSecondOfFour {lead : Nat} {second : UInt8}
    (range : 0xF0 ≤ lead ∧ lead ≤ 0xF4) (next : isSecondOfFour lead second.toNat = true) :
    second.toNat = continuationBits second + 0x80 ∧ continuationBits second < 64 ∧
      (lead = 0xF0 → 16 ≤ continuationBits second) ∧
      (lead = 0xF4 → continuationBits second < 16) := by
  have bits : continuationBits second = second.toNat - 0x80 := rfl
  simp only [isSecondOfFour, Bool.or_eq_true, Bool.and_eq_true, decide_eq_true_eq, beq_iff_eq,
    bne_iff_ne] at next
  omega

section Steps

variable {lead : UInt8} {rest : Bytes} {c : Char} {width : Nat}

theorem encodeChar_of_stepTwo (range : 0xC2 ≤ lead.toNat ∧ lead.toNat ≤ 0xDF)
    (step : stepTwo lead.toNat rest = .character c width) :
    String.utf8EncodeChar c ++ rest.drop (width - 1) = lead :: rest := by
  cases rest with
  | nil => cases step
  | cons second rest =>
      rw [stepTwo] at step
      split at step
      case isFalse => cases step
      case isTrue next =>
        obtain ⟨own, small⟩ := toNat_of_isContinuation next
        generalize continuationBits second = bits at *
        cases step
        rw [encodeChar_two (by omega) (by omega), ofNat_eq_of_toNat lead (by omega),
          ofNat_eq_of_toNat second (by omega)]
        rfl

theorem encodeChar_of_stepThree (range : 0xE0 ≤ lead.toNat ∧ lead.toNat ≤ 0xEF)
    (step : stepThree lead.toNat rest = .character c width) :
    String.utf8EncodeChar c ++ rest.drop (width - 1) = lead :: rest := by
  rcases rest with _ | ⟨second, _ | ⟨third, rest⟩⟩
  · cases step
  · rw [stepThree] at step
    split at step <;> cases step
  · rw [stepThree] at step
    split at step
    case isFalse => cases step
    case isTrue next =>
      split at step
      case isFalse => cases step
      case isTrue last =>
        obtain ⟨own, small, least, most⟩ := toNat_of_isSecondOfThree range next
        obtain ⟨own', small'⟩ := toNat_of_isContinuation last
        generalize continuationBits second = bits at *
        generalize continuationBits third = bits' at *
        cases step
        rw [encodeChar_three (by omega) (by omega) (by omega),
          ofNat_eq_of_toNat lead (by omega),
          ofNat_eq_of_toNat second (by omega),
          ofNat_eq_of_toNat third (by omega)]
        rfl

theorem encodeChar_of_stepFour (range : 0xF0 ≤ lead.toNat ∧ lead.toNat ≤ 0xF4)
    (step : stepFour lead.toNat rest = .character c width) :
    String.utf8EncodeChar c ++ rest.drop (width - 1) = lead :: rest := by
  rcases rest with _ | ⟨second, _ | ⟨third, _ | ⟨fourth, rest⟩⟩⟩
  · cases step
  · rw [stepFour] at step
    split at step <;> cases step
  · rw [stepFour] at step
    split at step
    case isFalse => cases step
    case isTrue =>
      split at step <;> cases step
  · rw [stepFour] at step
    split at step
    case isFalse => cases step
    case isTrue next =>
      split at step
      case isFalse => cases step
      case isTrue middle =>
        split at step
        case isFalse => cases step
        case isTrue last =>
          obtain ⟨own, small, least, most⟩ := toNat_of_isSecondOfFour range next
          obtain ⟨own', small'⟩ := toNat_of_isContinuation middle
          obtain ⟨own'', small''⟩ := toNat_of_isContinuation last
          generalize continuationBits second = bits at *
          generalize continuationBits third = bits' at *
          generalize continuationBits fourth = bits'' at *
          cases step
          rw [encodeChar_four (by omega) (by omega), ofNat_eq_of_toNat lead (by omega),
            ofNat_eq_of_toNat second (by omega),
            ofNat_eq_of_toNat third (by omega),
            ofNat_eq_of_toNat fourth (by omega)]
          rfl

/-- **What a reader takes for a character are the bytes of this character.** -/
theorem encodeChar_of_utf8Step (step : utf8Step lead rest = .character c width) :
    String.utf8EncodeChar c ++ rest.drop (width - 1) = lead :: rest := by
  unfold utf8Step at step
  dsimp only at step
  split at step
  case isTrue ascii =>
    cases step
    rw [encodeChar_one ascii, UInt8.ofNat_toNat]
    rfl
  split at step
  case isTrue two => exact encodeChar_of_stepTwo ((inRange_iff _ _ _).mp two) step
  split at step
  case isTrue three => exact encodeChar_of_stepThree ((inRange_iff _ _ _).mp three) step
  split at step
  case isTrue four => exact encodeChar_of_stepFour ((inRange_iff _ _ _).mp four) step
  cases step

end Steps

/-! ## Whole texts -/

theorem encode_of_decodeFrom {bytes : Bytes} {position : Nat} {text : List Char}
    (read : decodeFrom position bytes = .ok text) : encode text = bytes := by
  fun_induction decodeFrom position bytes generalizing text with
  | case1 position =>
      cases read
      rfl
  | case2 position lead rest c width step more found ih =>
      cases read
      rw [encode_cons, ih found, encodeChar_of_utf8Step step]
  | case3 => cases read
  | case4 => cases read
  | case5 => cases read

/-- **The strict reader accepts the bytes of texts and nothing else.** -/
theorem decode_eq_ok_iff {bytes : Bytes} {text : List Char} :
    decode bytes = .ok text ↔ encode text = bytes := by
  constructor
  · exact encode_of_decodeFrom
  · rintro rfl
    exact decode_encode text

theorem stringOf_eq_ok_iff {bytes : Bytes} {text : String} :
    stringOf bytes = .ok text ↔ bytesOf text = bytes := by
  rw [bytesOf, ← decode_eq_ok_iff, stringOf]
  cases decode bytes with
  | error fault =>
      constructor
      · rintro ⟨⟩
      · rintro ⟨⟩
  | ok read =>
      constructor
      · rintro ⟨⟩
        rw [String.toList_ofList]
      · rintro ⟨⟩
        exact congrArg Except.ok (String.ofList_toList)

/-- Bytes are UTF-8 exactly when they are the bytes of a text. -/
theorem isUtf8_iff {bytes : Bytes} : isUtf8 bytes = true ↔ ∃ text, encode text = bytes := by
  unfold isUtf8
  cases read : decode bytes with
  | ok text =>
      exact ⟨fun _ => ⟨text, decode_eq_ok_iff.mp read⟩, fun _ => rfl⟩
  | error fault =>
      constructor
      · intro valid
        cases valid
      · rintro ⟨text, same⟩
        rw [decode_eq_ok_iff.mpr same] at read
        cases read

/-- **The lenient reader loses nothing exactly on UTF-8.** -/
theorem encode_decodeLossy_iff {bytes : Bytes} :
    encode (decodeLossy bytes) = bytes ↔ isUtf8 bytes = true := by
  rw [isUtf8_iff]
  constructor
  · exact fun same => ⟨_, same⟩
  · rintro ⟨text, rfl⟩
    rw [decodeLossy_encode]

end NamedConstants.Text
