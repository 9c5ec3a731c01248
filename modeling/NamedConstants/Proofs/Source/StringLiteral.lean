import NamedConstants.Source.Literal
import NamedConstants.Text.Quoted

/-!
# Quoted texts are string literals

A quoted text is a string literal that denotes the text, whatever characters it
has (`literal?_quoted`). Each character is written as itself, as an escape of one
letter or by its number between braces, and the reader of literals takes exactly
this character off the front of what follows (`stringBody?_quotedChar`). So a
quoted text ends where its closing quote stands, and it stands on one line
(`lineFeed_not_mem_quoted`).
-/

set_option autoImplicit false

namespace NamedConstants.Source

/-- The reader's step for one character that has been read. -/
def consCode (code : Nat) : List Nat × List Char → List Nat × List Char :=
  fun (codes, rest) => (code :: codes, rest)

/-- A character that is the last one of a code puts it in front of what follows. -/
theorem stringBody?_emit {kind : StringKind} {state : StringState} {c : Char} {code : Nat}
    (step : stringStep kind state c = .emit code .plain) (text : List Char) :
    stringBody? kind state (c :: text) =
      (stringBody? kind .plain text).map (consCode code) := by
  rw [stringBody?, step]
  dsimp only
  cases stringBody? kind .plain text with
  | none => rfl
  | some read => rfl

/-! ## Numbers between braces -/

/-- One hexadecimal digit, written with a small letter. -/
theorem hexValue?_digitChar {digit : Nat} (small : digit < 16) :
    Json.hexValue? (Nat.digitChar digit) = some digit := by
  have check : ∀ digit : Fin 16, Json.hexValue? (Nat.digitChar digit.val) = some digit.val := by
    decide
  exact check ⟨digit, small⟩

/-- A digit goes on with the number of an escape of at most six digits. -/
theorem stringBody?_digit {digit value count : Nat} (small : digit < 16) (short : count < 6)
    (text : List Char) :
    stringBody? .text (.digits value count) (Nat.digitChar digit :: text) =
      stringBody? .text (.digits (16 * value + digit) (count + 1)) text := by
  have room : (count == 6) = false := beq_false_of_ne (Nat.ne_of_lt short)
  rw [stringBody?, stringStep, bracedStep, hexValue?_digitChar small]
  simp only [room, Bool.false_eq_true, if_false]

/-- The digits of a number are read as the number. -/
theorem stringBody?_hexDigits {n : Nat} (short : (Text.hexDigits n).length ≤ 6)
    (text : List Char) :
    stringBody? .text (.digits 0 0) (Text.hexDigits n ++ text) =
      stringBody? .text (.digits n (Text.hexDigits n).length) text := by
  induction n using Nat.strongRecOn generalizing text with
  | ind n ih =>
      by_cases single : n < 16
      · rw [Text.hexDigits, Nat.toDigits_of_lt_base single, List.singleton_append,
          stringBody?_digit single (by decide), Nat.mul_zero, Nat.zero_add]
        rfl
      · have split : Text.hexDigits n = Text.hexDigits (n / 16) ++ [(n % 16).digitChar] :=
          Nat.toDigits_of_base_le (by decide) (by omega)
        rw [split, List.length_append, List.length_singleton] at short ⊢
        rw [List.append_assoc, List.singleton_append, ih (n / 16) (by omega) (by omega),
          stringBody?_digit (Nat.mod_lt n (by decide)) (by omega), Nat.div_add_mod]

/-- A character has at most six hexadecimal digits. -/
theorem length_hexDigits_le (c : Char) : (Text.hexDigits c.toNat).length ≤ 6 := by
  rw [Text.hexDigits, Nat.length_toDigits_le_iff (by decide) (by decide)]
  have bound : c.toNat < 0x110000 := by
    rcases c.valid with low | high
    · exact Nat.lt_trans low (by decide)
    · exact high.2
  exact Nat.lt_trans bound (by decide)

/-- An escape by number. -/
theorem stringBody?_number (c : Char) (text : List Char) :
    stringBody? .text .plain
        (['\\', 'u', '\x7b'] ++ Text.hexDigits c.toNat ++ ['\x7d'] ++ text) =
      (stringBody? .text .plain text).map (consCode c.toNat) := by
  have begun : (Text.hexDigits c.toNat).length ≠ 0 := Nat.ne_of_gt Nat.length_toDigits_pos
  have closed : stringStep .text (.digits c.toNat (Text.hexDigits c.toNat).length) '\x7d' =
      .emit c.toNat .plain := by
    have valid : c.toNat.isValidChar := c.valid
    have outside : Json.hexValue? '\x7d' = none := by decide
    rw [stringStep, bracedStep, outside]
    simp [begun, StringKind.admitsBraced, valid]
  have opened : stringBody? .text .plain
        ('\\' :: 'u' :: '\x7b' :: (Text.hexDigits c.toNat ++ '\x7d' :: text)) =
      stringBody? .text (.digits 0 0) (Text.hexDigits c.toNat ++ '\x7d' :: text) := rfl
  simp only [List.append_assoc, List.cons_append, List.nil_append]
  rw [opened, stringBody?_hexDigits (length_hexDigits_le c), stringBody?_emit closed]

/-! ## Letters, plain characters and what is made of them -/

section Kinds

variable {kind : StringKind}

/-- An escape of one letter. -/
theorem stringBody?_letter {letter : Char} {code : Nat}
    (stands : kind.letterEscape? letter = some code) (text : List Char) :
    stringBody? kind .plain ('\\' :: letter :: text) =
      (stringBody? kind .plain text).map (consCode code) := by
  have opened : stringBody? kind .plain ('\\' :: letter :: text) =
      stringBody? kind .escape (letter :: text) := rfl
  have step : stringStep kind .escape letter = .emit code .plain := by
    rw [stringStep, escapeStep, stands]
  rw [opened, stringBody?_emit step]

/-- A character that stands for itself. -/
theorem stringBody?_plain {c : Char} (notQuote : c ≠ '"') (notBackslash : c ≠ '\\')
    (notReturn : c ≠ '\r') (admitted : kind.admits c = true) (text : List Char) :
    stringBody? kind .plain (c :: text) =
      (stringBody? kind .plain text).map (consCode c.toNat) := by
  have step : stringStep kind .plain c = .emit c.toNat .plain := by
    simp [stringStep, plainStep, notQuote, notBackslash, notReturn, admitted]
  exact stringBody?_emit step text

/-- Pieces that the reader takes off the front one by one are read up to the closing quote. -/
theorem stringBody?_flatMap {α : Type} {written : α → List Char} {code : α → Nat}
    (one : ∀ item text, stringBody? kind .plain (written item ++ text) =
      (stringBody? kind .plain text).map (consCode (code item))) (items : List α)
    (rest : List Char) :
    stringBody? kind .plain (items.flatMap written ++ '"' :: rest) =
      some (items.map code, rest) := by
  induction items with
  | nil => rfl
  | cons item items ih =>
      rw [List.flatMap_cons, List.append_assoc, one, ih]
      rfl

end Kinds

/-- **The reader takes a quoted character off the front of what follows.** -/
theorem stringBody?_quotedChar (c : Char) (text : List Char) :
    stringBody? .text .plain (Text.quotedChar c ++ text) =
      (stringBody? .text .plain text).map (consCode c.toNat) := by
  rw [Text.quotedChar]
  -- the six escapes of one letter
  iterate 6
    split
    · next same => rw [eq_of_beq same]; exact stringBody?_letter (by decide) text
  split
  · exact stringBody?_number c text
  · next notReturn _ notBackslash notQuote _ =>
    exact stringBody?_plain (mt beq_iff_eq.mpr notQuote) (mt beq_iff_eq.mpr notBackslash)
      (mt beq_iff_eq.mpr notReturn) rfl text

/-! ## Whole literals -/

/-- What starts no identifier is no suffix. -/
theorem afterSuffix_eq {rest : List Char} (ends : startsWord rest = false) :
    afterSuffix rest = rest := by
  cases rest with
  | nil => rfl
  | cons c rest =>
      have other : Text.isIdentifierStart c = false := ends
      rw [afterSuffix, Source.anyWord?, other]
      rfl

/-- **A quoted text is a literal that denotes the text.** What follows it must not
be a suffix. -/
theorem literal?_quoted (text : List Char) {rest : List Char}
    (ends : startsWord rest = false) :
    literal? (Text.quoted text ++ rest) = some (.string text, rest) := by
  have body : Text.quoted text ++ rest =
      '"' :: (text.flatMap Text.quotedChar ++ '"' :: rest) := by
    simp only [Text.quoted, List.cons_append, List.append_assoc, List.nil_append]
  have codes : (text.map Char.toNat).map Char.ofNat = text := by
    rw [List.map_map]
    exact (List.map_congr_left fun c _ => Char.ofNat_toNat c).trans (List.map_id text)
  rw [body, literal?, unsuffixed?, cookedString?, stringBody?_flatMap stringBody?_quotedChar]
  simp only [Option.map_some, Literal.ofCodes, codes, afterSuffix_eq ends]

/-! ## Lines -/

theorem lineFeed_not_mem_hexDigits (n : Nat) : '\n' ∉ Text.hexDigits n := by
  induction n using Nat.strongRecOn with
  | ind n ih =>
      have digit {k : Nat} (small : k < 16) : '\n' ∉ [Nat.digitChar k] := by
        intro listed
        have read := hexValue?_digitChar small
        rw [← List.mem_singleton.mp listed] at read
        cases read
      by_cases single : n < 16
      · rw [Text.hexDigits, Nat.toDigits_of_lt_base single]
        exact digit single
      · rw [Text.hexDigits, Nat.toDigits_of_base_le (by decide) (by omega), List.mem_append, not_or]
        exact ⟨ih (n / 16) (by omega), digit (Nat.mod_lt n (by decide))⟩

theorem lineFeed_not_mem_quotedChar (c : Char) : '\n' ∉ Text.quotedChar c := by
  rw [Text.quotedChar]
  -- the six escapes of one letter
  iterate 6
    split
    · decide
  split
  · rw [List.mem_append, List.mem_append, not_or, not_or]
    exact ⟨⟨by decide, lineFeed_not_mem_hexDigits c.toNat⟩, by decide⟩
  · next notFeed _ _ _ =>
    exact fun listed => notFeed (beq_iff_eq.mpr (List.mem_singleton.mp listed).symm)

/-- **A quoted text stands on one line.** -/
theorem lineFeed_not_mem_quoted (text : List Char) : '\n' ∉ Text.quoted text := by
  rw [Text.quoted, List.mem_append, List.mem_cons, List.mem_flatMap]
  rintro ((quote | ⟨c, -, inside⟩) | quote)
  · exact absurd quote (by decide)
  · exact lineFeed_not_mem_quotedChar c inside
  · exact absurd quote (by decide)

end NamedConstants.Source
