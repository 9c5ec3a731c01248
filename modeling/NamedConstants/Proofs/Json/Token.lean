import NamedConstants.Proofs.Json.String
import NamedConstants.Proofs.Text.DecimalDigits

/-!
# JSON texts of one token

A number, a truth value or a string stands alone in a text, and the reader gives
it back: an integer that has 64 bits (`ofText?_integerText`), a truth value
(`ofText?_bool`) and a string (`ofText?_writeString`). Behind the digits of an
integer nothing may follow that would make it longer or a float.
-/

set_option autoImplicit false

namespace NamedConstants.Json

open BinaryFloat (spanDigits)

/-! ## Integers -/

/-- Digits are collected as long as the number they spell has 64 bits. -/
theorem collect_digits {text : List Char} (value : Nat)
    (fits : Nat.ofDigitChars 10 text value ≤ largestSignificand) :
    collect value text = (Nat.ofDigitChars 10 text value, []) := by
  induction text generalizing value with
  | nil => rfl
  | cons c text ih =>
      rw [Nat.ofDigitChars_cons, show '0'.toNat = 48 from rfl] at fits ⊢
      have grown := le_ofDigitChars (10 * value + (c.toNat - 48)) text
      rw [collect, if_pos (Nat.le_trans grown fits)]
      exact ih _ fits

/-- What follows an integer neither adds a digit nor makes it a float. -/
def EndsInteger (text : List Char) : Prop :=
  ∀ c ∈ text.head?, c.isDigit = false ∧ c ≠ '.' ∧ c ≠ 'e' ∧ c ≠ 'E'

theorem EndsInteger.nil : EndsInteger [] := by
  intro c member
  cases member

theorem EndsInteger.endsDigits {text : List Char} (ends : EndsInteger text) : EndsDigits text :=
  fun c member => (ends c member).1

/-- Digits that spell a number of 64 bits are read as a whole number. -/
theorem unsignedNumber_digits (negative : Bool) {text : List Char} (digits : AllDigits text)
    (written : text ≠ [])
    (leading : (text.head? == some '0' && text.length != 1) = false)
    (fits : Nat.ofDigitChars 10 text 0 ≤ largestSignificand) {rest : List Char}
    (ends : EndsInteger rest) :
    unsignedNumber negative (text ++ rest) =
      some (wholeNumber negative (Nat.ofDigitChars 10 text 0), rest) := by
  have some : text.isEmpty = false := List.isEmpty_eq_false_iff.mpr written
  rw [unsignedNumber, spanDigits_append digits ends.endsDigits]
  dsimp only
  rw [some, leading, collect_digits 0 fits]
  cases rest with
  | nil => rfl
  | cons c rest =>
      obtain ⟨-, point, small, large⟩ := ends c rfl
      simp [point, small, large]

/-- Only zero itself is written with a zero in front, and it has no other digit.
-/
theorem leadingZero_decimalDigits (n : Nat) :
    ((decimalDigits n).head? == some '0' && (decimalDigits n).length != 1) = false := by
  rw [Bool.and_eq_false_iff]
  by_cases zero : (decimalDigits n).head? = some '0'
  · rw [eq_zero_of_head_decimalDigits zero]
    exact Or.inr rfl
  · exact Or.inl (beq_eq_false_iff_ne.mpr zero)

theorem unsignedNumber_decimalDigits (negative : Bool) {n : Nat} (fits : n ≤ largestSignificand)
    {rest : List Char} (ends : EndsInteger rest) :
    unsignedNumber negative (decimalDigits n ++ rest) = some (wholeNumber negative n, rest) := by
  have spelled : Nat.ofDigitChars 10 (decimalDigits n) 0 = n := digitsValue_decimalDigits n
  have read := unsignedNumber_digits negative (allDigits_decimalDigits n) (decimalDigits_ne_nil n)
    (leadingZero_decimalDigits n) (by rwa [spelled]) ends
  rwa [spelled] at read

/-- A number that starts with a digit has no sign. -/
theorem number?_of_digit {c : Char} (digit : c.isDigit = true) (text : List Char) :
    number? (c :: text) = unsignedNumber false (c :: text) := by
  rw [number?]
  rintro rest same
  rw [(List.cons.inj same).1] at digit
  exact absurd digit (by decide)

/-- **An integer that has 64 bits is read back from its text.** -/
theorem number?_integerText {value : Int} (least : -(twoTo 63 : Nat) ≤ value)
    (most : value < (twoTo 64 : Nat)) {rest : List Char} (ends : EndsInteger rest) :
    number? (integerText value ++ rest) = some (.integer value, rest) := by
  have fits : value.natAbs ≤ largestSignificand := by
    have significand : largestSignificand = twoTo 63 + twoTo 63 - 1 := rfl
    have twice : twoTo 64 = twoTo 63 + twoTo 63 := rfl
    rw [twice] at most
    omega
  rw [integerText]
  split
  case isTrue below =>
    have whole : wholeNumber true value.natAbs = .integer value := by
      have bounded : (decide (0 < value.natAbs) && decide (value.natAbs ≤ twoTo 63)) = true := by
        rw [Bool.and_eq_true, decide_eq_true_iff, decide_eq_true_iff]
        omega
      rw [wholeNumber, bounded, Int.ofNat_natAbs_of_nonpos (by omega), Int.neg_neg]
      rfl
    rw [List.cons_append, number?, unsignedNumber_decimalDigits true fits ends, whole]
  case isFalse above =>
    have whole : wholeNumber false value.natAbs = .integer value := by
      rw [wholeNumber, Int.natAbs_of_nonneg (by omega)]
      rfl
    have unsigned : number? (decimalDigits value.natAbs ++ rest) =
        unsignedNumber false (decimalDigits value.natAbs ++ rest) := by
      obtain ⟨c, more, text⟩ := List.exists_cons_of_ne_nil (decimalDigits_ne_nil value.natAbs)
      have digit := allDigits_decimalDigits value.natAbs
      rw [text] at digit ⊢
      exact number?_of_digit digit.head _
    rw [unsigned, unsignedNumber_decimalDigits false fits ends, whole]

/-- An integer starts with a digit or a minus. -/
theorem integerText_eq_cons (value : Int) :
    ∃ c rest, integerText value = c :: rest ∧ (c.isDigit = true ∨ c = '-') := by
  rw [integerText]
  split
  case isTrue => exact ⟨'-', _, rfl, Or.inr rfl⟩
  case isFalse =>
    obtain ⟨c, rest, text⟩ := List.exists_cons_of_ne_nil (decimalDigits_ne_nil value.natAbs)
    refine ⟨c, rest, text, Or.inl ?_⟩
    exact allDigits_decimalDigits value.natAbs c (text ▸ List.mem_cons_self)

/-- A text that starts with a digit or a minus is no other token. -/
theorem token?_of_head {c : Char} (numeric : c.isDigit = true ∨ c = '-') (text : List Char) :
    token? (c :: text) = (number? (c :: text)).map fun (value, rest) => (.scalar value, rest) := by
  unfold token?
  split
  case h_11 => rfl
  all_goals
    next same =>
      rw [(List.cons.inj same).1] at numeric
      exact absurd numeric (by decide)

/-! ## Texts of one token -/

theorem tokensWithin?_nil (bound : Nat) : tokensWithin? bound [] = some [] := by
  cases bound <;> rfl

theorem tokens?_of_token? {c : Char} {text : List Char} {token : Token}
    (visible : isSpace c = false) (read : token? (c :: text) = some (token, [])) :
    tokens? (c :: text) = some [token] := by
  have kept : (c :: text).dropWhile isSpace = c :: text :=
    List.dropWhile_cons_of_neg (Bool.eq_false_iff.mp visible)
  rw [tokens?, List.length_cons, tokensWithin?, kept]
  dsimp only
  rw [read]
  dsimp only
  rw [tokensWithin?_nil, Option.map_some]

theorem ofText?_of_scalar {c : Char} {text : List Char} {value : Json}
    (visible : isSpace c = false) (read : token? (c :: text) = some (.scalar value, [])) :
    ofText? (c :: text) = some value := by
  rw [ofText?, tokens?_of_token? visible read]
  rfl

theorem isSpace_of_numeric {c : Char} (numeric : c.isDigit = true ∨ c = '-') :
    isSpace c = false := by
  rw [Bool.eq_false_iff]
  intro space
  simp only [isSpace, Bool.or_eq_true, beq_iff_eq] at space
  rcases space with ((rfl | rfl) | rfl) | rfl
  all_goals exact absurd numeric (by decide)

/-- A number that is the whole text is the value of the text. -/
theorem ofText?_of_number {c : Char} (numeric : c.isDigit = true ∨ c = '-') {text : List Char}
    {value : Json} (read : number? (c :: text) = some (value, [])) :
    ofText? (c :: text) = some value := by
  refine ofText?_of_scalar (isSpace_of_numeric numeric) ?_
  rw [token?_of_head numeric, read, Option.map_some]

theorem ofText?_integerText {value : Int} (least : -(twoTo 63 : Nat) ≤ value)
    (most : value < (twoTo 64 : Nat)) : ofText? (integerText value) = some (.integer value) := by
  obtain ⟨c, text, written, numeric⟩ := integerText_eq_cons value
  have read := number?_integerText least most EndsInteger.nil
  rw [List.append_nil, written] at read
  rw [written]
  exact ofText?_of_number numeric read

theorem ofText?_bool (value : Bool) : ofText? (bool value).write = some (.bool value) := by
  cases value <;> rfl

theorem ofText?_writeString (text : String) : ofText? (writeString text) = some (.string text) := by
  have read := token?_writeString text []
  rw [List.append_nil] at read
  rw [ofText?]
  have tokens : tokens? (writeString text) = some [.string text] := tokens?_of_token? rfl read
  rw [tokens]
  rfl

end NamedConstants.Json
