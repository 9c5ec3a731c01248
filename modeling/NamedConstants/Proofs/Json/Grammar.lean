import NamedConstants.Json.Reader
import NamedConstants.Proofs.Text.DecimalDigits

/-!
# The grammar of JSON

Which texts are JSON, told without a reader: strings and numbers as regular forms
(`IsString`, `IsNumber`), values and what they are made of as an inductive family
(`IsValue`), and a document as a value with blanks around it (`IsDocument`). Unlike a
reader, the grammar bounds neither the depth of a value nor the size of a number.

The first character of a value tells its form, so a text that starts in another way is no
document (`not_isDocument_of_start`), and neither is a minus without a digit
(`not_isDocument_of_minus`).
-/

set_option autoImplicit false

namespace NamedConstants.Json

/-! ## Strings -/

def isHexDigit (c : Char) : Bool :=
  c.isDigit || decide ('a' ≤ c ∧ c ≤ 'f') || decide ('A' ≤ c ∧ c ≤ 'F')

/-- One character of a string as it is written: itself, or behind a backslash. -/
inductive IsPiece : List Char → Prop
  | plain {c : Char} (visible : 0x20 ≤ c.toNat) (notQuote : c ≠ '"') (notBackslash : c ≠ '\\') :
      IsPiece [c]
  | escape {letter : Char} (known : letter ∈ ['"', '\\', '/', 'b', 'f', 'n', 'r', 't']) :
      IsPiece ['\\', letter]
  | number {digits : List Char} (four : digits.length = 4)
      (hex : ∀ c ∈ digits, isHexDigit c = true) : IsPiece ('\\' :: 'u' :: digits)

/-- The text is a string. -/
def IsString (text : List Char) : Prop :=
  ∃ pieces : List (List Char), (∀ piece ∈ pieces, IsPiece piece) ∧
    text = '"' :: pieces.flatten ++ ['"']

/-! ## Numbers -/

/-- The digits in front of the point: no zero stands in front of another digit. -/
inductive IsWhole : List Char → Prop
  | zero : IsWhole ['0']
  | digits {c : Char} {rest : List Char} (all : AllDigits (c :: rest)) (nonzero : c ≠ '0') :
      IsWhole (c :: rest)

/-- A point and digits behind it, or nothing. -/
inductive IsFraction : List Char → Prop
  | none : IsFraction []
  | point {digits : List Char} (all : AllDigits digits) (some : digits ≠ []) :
      IsFraction ('.' :: digits)

/-- An exponent with a sign or without, or nothing. -/
inductive IsExponent : List Char → Prop
  | none : IsExponent []
  | mark {letter : Char} (known : letter ∈ ['e', 'E']) {sign : List Char}
      (signed : sign ∈ [[], ['+'], ['-']]) {digits : List Char} (all : AllDigits digits)
      (some : digits ≠ []) : IsExponent (letter :: (sign ++ digits))

/-- The text is a number without a sign. -/
inductive IsSize : List Char → Prop
  | parts {whole fraction exponent : List Char} (first : IsWhole whole)
      (second : IsFraction fraction) (third : IsExponent exponent) :
      IsSize (whole ++ (fraction ++ exponent))

/-- The text is a number. -/
inductive IsNumber : List Char → Prop
  | unsigned {size : List Char} (sized : IsSize size) : IsNumber size
  | minus {size : List Char} (sized : IsSize size) : IsNumber ('-' :: size)

/-! ## Values -/

/-- Nothing but blanks. -/
def IsSpaces (text : List Char) : Prop :=
  ∀ c ∈ text, isSpace c = true

mutual

/-- The text is a value. -/
inductive IsValue : List Char → Prop
  | word {text : List Char} (known : text ∈ ["null".toList, "true".toList, "false".toList]) :
      IsValue text
  | number {text : List Char} (written : IsNumber text) : IsValue text
  | string {text : List Char} (written : IsString text) : IsValue text
  | emptyArray {blanks : List Char} (spaces : IsSpaces blanks) : IsValue ('[' :: blanks ++ [']'])
  | array {text : List Char} (elements : IsElements text) : IsValue ('[' :: text ++ [']'])
  | emptyObject {blanks : List Char} (spaces : IsSpaces blanks) :
      IsValue ('\x7b' :: blanks ++ ['\x7d'])
  | object {text : List Char} (members : IsMembers text) : IsValue ('\x7b' :: text ++ ['\x7d'])

/-- The text is a value with blanks around it. -/
inductive IsElement : List Char → Prop
  | padded {before text after : List Char} (spaces : IsSpaces before) (value : IsValue text)
      (spaces' : IsSpaces after) : IsElement (before ++ (text ++ after))

/-- The text is a list of elements, at least one, with commas between them. -/
inductive IsElements : List Char → Prop
  | last {text : List Char} (element : IsElement text) : IsElements text
  | more {text rest : List Char} (element : IsElement text) (elements : IsElements rest) :
      IsElements (text ++ ',' :: rest)

/-- The text is a list of members, at least one, with commas between them. -/
inductive IsMembers : List Char → Prop
  | last {before key after text : List Char} (spaces : IsSpaces before) (name : IsString key)
      (spaces' : IsSpaces after) (element : IsElement text) :
      IsMembers (before ++ (key ++ (after ++ ':' :: text)))
  | more {before key after text rest : List Char} (spaces : IsSpaces before) (name : IsString key)
      (spaces' : IsSpaces after) (element : IsElement text) (members : IsMembers rest) :
      IsMembers (before ++ (key ++ (after ++ ':' :: (text ++ ',' :: rest))))

end

/-- The text is a JSON document: one value with blanks around it. -/
def IsDocument (text : List Char) : Prop :=
  IsElement text

theorem isSpaces_nil : IsSpaces [] := by
  intro c member
  cases member

theorem IsValue.isElement {text : List Char} (value : IsValue text) : IsElement text := by
  have padded := IsElement.padded isSpaces_nil value isSpaces_nil
  rwa [List.append_nil, List.nil_append] at padded

/-! ## How values start -/

/-- A value starts with this character. -/
def startsValue (c : Char) : Bool :=
  c.isDigit || "-ntf\"[\x7b".toList.contains c

theorem IsWhole.exists_digit {text : List Char} (whole : IsWhole text) :
    ∃ c rest, text = c :: rest ∧ c.isDigit = true := by
  cases whole with
  | zero => exact ⟨'0', [], rfl, rfl⟩
  | digits all => exact ⟨_, _, rfl, all.head⟩

theorem IsSize.exists_digit {text : List Char} (size : IsSize text) :
    ∃ c rest, text = c :: rest ∧ c.isDigit = true := by
  cases size with
  | parts first =>
      obtain ⟨c, rest, rfl, digit⟩ := first.exists_digit
      exact ⟨c, _, rfl, digit⟩

theorem IsNumber.exists_start {text : List Char} (number : IsNumber text) :
    ∃ c rest, text = c :: rest ∧ (c.isDigit = true ∨ c = '-') := by
  cases number with
  | unsigned size =>
      obtain ⟨c, rest, rfl, digit⟩ := size.exists_digit
      exact ⟨c, rest, rfl, .inl digit⟩
  | minus => exact ⟨'-', _, rfl, .inr rfl⟩

theorem IsValue.exists_start {text : List Char} (value : IsValue text) :
    ∃ c rest, text = c :: rest ∧ startsValue c = true := by
  cases value with
  | word known =>
      simp only [List.mem_cons, List.not_mem_nil, or_false] at known
      rcases known with rfl | rfl | rfl
      · exact ⟨'n', _, rfl, rfl⟩
      · exact ⟨'t', _, rfl, rfl⟩
      · exact ⟨'f', _, rfl, rfl⟩
  | number written =>
      obtain ⟨c, rest, rfl, digit | rfl⟩ := written.exists_start
      · exact ⟨c, rest, rfl, by rw [startsValue, digit, Bool.true_or]⟩
      · exact ⟨'-', rest, rfl, rfl⟩
  | string written =>
      obtain ⟨pieces, -, rfl⟩ := written
      exact ⟨'"', _, rfl, rfl⟩
  | emptyArray => exact ⟨'[', _, rfl, rfl⟩
  | array => exact ⟨'[', _, rfl, rfl⟩
  | emptyObject => exact ⟨'\x7b', _, rfl, rfl⟩
  | object => exact ⟨'\x7b', _, rfl, rfl⟩

/-- Only a number starts with a minus, and a digit follows it. -/
theorem IsValue.exists_digit {text rest : List Char} (value : IsValue text)
    (minus : text = '-' :: rest) : ∃ c more, rest = c :: more ∧ c.isDigit = true := by
  cases value with
  | number written =>
      cases written with
      | unsigned size =>
          obtain ⟨c, _, rfl, digit⟩ := size.exists_digit
          rw [(List.cons.inj minus).1] at digit
          exact absurd digit (by decide)
      | minus size =>
          rw [← (List.cons.inj minus).2]
          exact size.exists_digit
  | word known =>
      rw [minus] at known
      exact absurd known (by simp)
  | string written =>
      obtain ⟨pieces, -, rfl⟩ := written
      exact absurd (List.cons.inj minus).1 (by decide)
  | emptyArray => exact absurd (List.cons.inj minus).1 (by decide)
  | array => exact absurd (List.cons.inj minus).1 (by decide)
  | emptyObject => exact absurd (List.cons.inj minus).1 (by decide)
  | object => exact absurd (List.cons.inj minus).1 (by decide)

/-- A document that does not start with a blank starts with its value. -/
theorem IsDocument.exists_value {c : Char} {rest : List Char} (document : IsDocument (c :: rest))
    (visible : isSpace c = false) :
    ∃ text after, IsValue (c :: text) ∧ rest = text ++ after := by
  generalize whole : c :: rest = document' at document
  cases document with
  | @padded before text after spaces value =>
      cases before with
      | nil =>
          obtain ⟨d, more, rfl, -⟩ := value.exists_start
          obtain ⟨rfl, rfl⟩ := List.cons.inj whole
          exact ⟨more, after, value, rfl⟩
      | cons d before =>
          have space := spaces d List.mem_cons_self
          rw [← (List.cons.inj whole).1, visible] at space
          cases space

/-- A text that starts with another character is no document. -/
theorem not_isDocument_of_start {c : Char} (other : startsValue c = false) (visible : isSpace c = false)
    (rest : List Char) : ¬IsDocument (c :: rest) := by
  intro document
  obtain ⟨text, after, value, -⟩ := document.exists_value visible
  obtain ⟨d, more, same, starts⟩ := value.exists_start
  rw [← (List.cons.inj same).1, other] at starts
  cases starts

/-- A minus without a digit is no document. -/
theorem not_isDocument_of_minus {c : Char} (other : c.isDigit = false) (rest : List Char) :
    ¬IsDocument ('-' :: c :: rest) := by
  intro document
  obtain ⟨text, after, value, parts⟩ := document.exists_value rfl
  obtain ⟨d, more, rfl, digit⟩ := value.exists_digit rfl
  rw [← (List.cons.inj parts).1, other] at digit
  cases digit

end NamedConstants.Json
