import NamedConstants.Proofs.Source.StringLiteral
import NamedConstants.Proofs.Text.ValidUtf8

/-!
# Quoted bytes are byte-string literals

Quoted bytes are a byte-string literal of printable ASCII that denotes the bytes, whatever they are
(`literal?_quotedBytes`, `isPrintableAscii_quotedBytes`). A byte is written as the character it is, as an
escape of one letter or with two digits, and the reader takes exactly this byte off the front of
what follows (`stringBody?_quotedByte`): an escape by number has two digits whatever follows it.
-/

set_option autoImplicit false

namespace NamedConstants.Source

/-! ## One byte -/

/-- A byte is the number of its character. -/
theorem toNat_ofNat_byte (byte : UInt8) : (Char.ofNat byte.toNat).toNat = byte.toNat := by
  have below := byte.toNat_lt
  exact Text.toNat_ofNat (.inl (by omega))

/-- A byte by its number. -/
theorem stringBody?_hexByte (byte : UInt8) (text : List Char) :
    stringBody? .bytes .plain (['\\', 'x'] ++ Text.hexByte byte ++ text) =
      (stringBody? .bytes .plain text).map (consCode byte.toNat) := by
  have below := byte.toNat_lt
  have high : Json.hexValue? (Nat.digitChar (byte.toNat / 16)) = some (byte.toNat / 16) :=
    hexValue?_digitChar (by omega)
  have low : Json.hexValue? (Nat.digitChar (byte.toNat % 16)) = some (byte.toNat % 16) :=
    hexValue?_digitChar (by omega)
  have first : stringStep .bytes .hexHigh (Nat.digitChar (byte.toNat / 16)) =
      .go (.hexLow (byte.toNat / 16)) := by
    rw [stringStep, high]
  have second : stringStep .bytes (.hexLow (byte.toNat / 16)) (Nat.digitChar (byte.toNat % 16)) =
      .emit byte.toNat .plain := by
    rw [stringStep, low]
    dsimp only
    rw [Nat.div_add_mod]
    rfl
  have opened : stringBody? .bytes .plain (['\\', 'x'] ++ Text.hexByte byte ++ text) =
      stringBody? .bytes .hexHigh (Nat.digitChar (byte.toNat / 16) ::
        Nat.digitChar (byte.toNat % 16) :: text) := rfl
  rw [opened, stringBody?, first]
  exact stringBody?_emit second text

/-- **The reader takes a quoted byte off the front of what follows.** -/
theorem stringBody?_quotedByte (byte : UInt8) (text : List Char) :
    stringBody? .bytes .plain (Text.quotedByte byte ++ text) =
      (stringBody? .bytes .plain text).map (consCode byte.toNat) := by
  rw [Text.quotedByte]
  -- the six escapes of one letter
  iterate 6
    split
    · next same => rw [eq_of_beq same]; exact stringBody?_letter (by decide) text
  split
  case isTrue printable =>
    next notReturn notQuote _ notBackslash =>
    rw [Bool.and_eq_true, decide_eq_true_iff, decide_eq_true_iff] at printable
    have code := toNat_ofNat_byte byte
    have apart {c : Char} {other : UInt8} (same : c.toNat = other.toNat)
        (distinct : ¬(byte == other) = true) : Char.ofNat byte.toNat ≠ c := by
      rintro rfl
      exact distinct (beq_iff_eq.mpr (UInt8.toNat_inj.mp (code.symm.trans same)))
    have admitted : StringKind.bytes.admits (Char.ofNat byte.toNat) = true := by
      rw [StringKind.admits, code]
      exact decide_eq_true (by omega)
    have read := stringBody?_plain (apart rfl notQuote) (apart rfl notBackslash)
      (apart rfl notReturn) admitted text
    rwa [code] at read
  case isFalse => exact stringBody?_hexByte byte text

/-! ## Whole literals -/

/-- **Quoted bytes are a literal that denotes the bytes.** What follows it must not be a
suffix. -/
theorem literal?_quotedBytes (bytes : Text.Bytes) {rest : List Char}
    (ends : startsWord rest = false) :
    literal? (Text.quotedBytes bytes ++ rest) = some (.bytes bytes, rest) := by
  have body : Text.quotedBytes bytes ++ rest =
      'b' :: '"' :: (bytes.flatMap Text.quotedByte ++ '"' :: rest) := by
    simp only [Text.quotedBytes, List.cons_append, List.append_assoc, List.nil_append]
  have codes : (bytes.map UInt8.toNat).map UInt8.ofNat = bytes := by
    rw [List.map_map]
    exact (List.map_congr_left fun byte _ => UInt8.ofNat_toNat).trans (List.map_id bytes)
  rw [body, literal?, unsuffixed?, cookedString?, stringBody?_flatMap stringBody?_quotedByte]
  simp only [Option.map_some, Literal.ofCodes, codes, afterSuffix_eq ends]

/-! ## Printable characters -/

/-- The character is a printable one of ASCII. -/
def isPrintableAscii (c : Char) : Bool :=
  0x20 ≤ c.toNat && c.toNat < 0x7F

theorem isPrintableAscii_digitChar {digit : Nat} (small : digit < 16) :
    isPrintableAscii (Nat.digitChar digit) = true := by
  have check : ∀ digit : Fin 16, isPrintableAscii (Nat.digitChar digit.val) = true := by decide
  exact check ⟨digit, small⟩

theorem isPrintableAscii_quotedByte (byte : UInt8) :
    (Text.quotedByte byte).all isPrintableAscii = true := by
  rw [Text.quotedByte]
  -- the six escapes of one letter
  iterate 6
    split
    · decide
  split
  case isTrue printable =>
    rw [List.all_cons, List.all_nil, Bool.and_true, isPrintableAscii, toNat_ofNat_byte]
    exact printable
  case isFalse =>
    have below := byte.toNat_lt
    have high := isPrintableAscii_digitChar (show byte.toNat / 16 < 16 by omega)
    have low := isPrintableAscii_digitChar (show byte.toNat % 16 < 16 by omega)
    have digits : (Text.hexByte byte).all isPrintableAscii = true := by
      rw [Text.hexByte, List.all_cons, List.all_cons, high, low]
      rfl
    rw [List.all_append, digits]
    decide

/-- **Quoted bytes are printable ASCII.** -/
theorem isPrintableAscii_quotedBytes (bytes : Text.Bytes) :
    (Text.quotedBytes bytes).all isPrintableAscii = true := by
  have body : (bytes.flatMap Text.quotedByte).all isPrintableAscii = true := by
    rw [List.all_flatMap, List.all_eq_true]
    exact fun byte _ => isPrintableAscii_quotedByte byte
  rw [Text.quotedBytes, List.all_append, List.all_cons, List.all_cons, body]
  decide

end NamedConstants.Source
