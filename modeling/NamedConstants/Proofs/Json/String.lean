import NamedConstants.Json.Reader
import NamedConstants.Json.Writer
import NamedConstants.Proofs.Text.Utf8

/-!
# JSON strings

Each character of a string is written as itself or as an escape, and the reader
takes exactly this character off the front of what follows
(`stringBody?_writtenChar`). So a written string is read back as the string up
to its closing quote, whatever stands behind it (`stringBody?_written`), and
different strings are written differently (`writeString_injective`).
-/

set_option autoImplicit false

namespace NamedConstants.Json

/-- The reader's step for one character that has been read. -/
def consRead (c : Char) : List Char × List Char → List Char × List Char :=
  fun (text, rest) => (c :: text, rest)

/-! ## Escapes -/

/-- The two hexadecimal digits of a byte spell it. -/
theorem hexNumber?_hexByte (n : Nat) (small : n < 0x20) :
    ∃ a b, Text.hexByte n.toUInt8 = [a, b] ∧ hexNumber? '0' '0' a b = some n := by
  have check : ∀ k : Fin 0x20,
      hexNumber? '0' '0' (Nat.digitChar (k.val.toUInt8.toNat / 16))
        (Nat.digitChar (k.val.toUInt8.toNat % 16)) = some k.val := by decide
  exact ⟨_, _, rfl, check ⟨n, small⟩⟩

/-- A letter behind a backslash that stands for a character. -/
theorem stringBody?_escaped {letter c : Char} (stands : escaped? letter = some c)
    (text : List Char) :
    stringBody? ('\\' :: letter :: text) = (stringBody? text).map (consRead c) := by
  have other : letter ≠ 'u' := by
    rintro rfl
    cases stands
  rw [stringBody?.eq_4 letter text (fun _ _ _ _ _ same _ => other same), stands]
  rfl

/-- A number behind a backslash below the surrogates. -/
theorem stringBody?_number {a b : Char} {n : Nat} (number : hexNumber? '0' '0' a b = some n)
    (small : n < 0x20) (text : List Char) :
    stringBody? ('\\' :: 'u' :: '0' :: '0' :: a :: b :: text) =
      (stringBody? text).map (consRead (Char.ofNat n)) := by
  have notLow : ¬(0xDC00 ≤ n ∧ n ≤ 0xDFFF) := by omega
  have notHigh : ¬(0xD800 ≤ n ∧ n ≤ 0xDBFF) := by omega
  rw [stringBody?, number]
  simp only [notLow, notHigh, if_false]
  rfl

/-- A character that stands for itself. -/
theorem stringBody?_plain {c : Char} (notQuote : c ≠ '"') (notBackslash : c ≠ '\\')
    (visible : ¬c.toNat < 0x20) (text : List Char) :
    stringBody? (c :: text) = (stringBody? text).map (consRead c) := by
  have kept : (decide (c.toNat < 0x20) || c == '\\') = false := by
    rw [Bool.or_eq_false_iff, decide_eq_false_iff_not, beq_eq_false_iff_ne]
    exact ⟨visible, notBackslash⟩
  rw [stringBody?.eq_5 c text notQuote (fun _ _ _ _ _ same _ => notBackslash same)
    (fun _ _ same _ => notBackslash same), kept]
  rfl

/-- **The reader takes a written character off the front of what follows.** -/
theorem stringBody?_writtenChar (c : Char) (text : List Char) :
    stringBody? (writtenChar c ++ text) = (stringBody? text).map (consRead c) := by
  rw [writtenChar]
  -- the seven escapes of one letter
  iterate 7
    split
    · next same => rw [eq_of_beq same]; exact stringBody?_escaped (by decide) text
  split
  · next small =>
    obtain ⟨a, b, digits, number⟩ := hexNumber?_hexByte c.toNat small
    rw [digits]
    have read := stringBody?_number number small text
    rwa [Char.ofNat_toNat] at read
  · next notQuote notBackslash _ _ _ _ _ visible =>
    exact stringBody?_plain (mt beq_iff_eq.mpr notQuote) (mt beq_iff_eq.mpr notBackslash) visible
      text

/-! ## Whole strings -/

/-- **A written string is read back up to its closing quote.** -/
theorem stringBody?_written (text rest : List Char) :
    stringBody? (text.flatMap writtenChar ++ '"' :: rest) = some (text, rest) := by
  induction text with
  | nil => rfl
  | cons c text ih =>
      rw [List.flatMap_cons, List.append_assoc, stringBody?_writtenChar, ih]
      rfl

theorem token?_writeString (text : String) (rest : List Char) :
    token? (writeString text ++ rest) = some (.string text, rest) := by
  have body : writeString text ++ rest =
      '"' :: (text.toList.flatMap writtenChar ++ '"' :: rest) := by
    simp only [writeString, List.cons_append, List.append_assoc, List.nil_append]
  rw [body, token?, stringBody?_written, Option.map_some]
  simp only [String.ofList_toList]

/-- Different strings are written differently. -/
theorem writeString_injective {first second : String}
    (same : writeString first = writeString second) : first = second := by
  have read := token?_writeString first []
  rw [same, token?_writeString] at read
  exact (Token.string.inj (Prod.mk.inj (Option.some.inj read)).1).symm

end NamedConstants.Json
