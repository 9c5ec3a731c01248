import NamedConstants.Json.Reader
import NamedConstants.Text.Blank
import NamedConstants.Text.Letter
import NamedConstants.Text.Utf8

/-!
# Literals of source text

What a literal denotes, and how literals are read. Strings, byte strings and C
strings with escapes are read by one automaton that looks at one character at a
time; they differ in the escapes and the characters they admit. Numbers keep
their digits: integers in base ten, floats as they are written without
underscores.
-/

set_option autoImplicit false

namespace NamedConstants.Source

/-- What a literal denotes. Characters, single bytes and C strings denote
nothing that a constant can have. -/
inductive Literal
  | integer (digits : List Char)
  | float (digits : List Char)
  | string (text : List Char)
  | bytes (content : Text.Bytes)
  | other
  deriving DecidableEq, Repr

/-! ## Escapes -/

/-- The kinds of string literals. -/
inductive StringKind
  | text
  | bytes
  | terminated
  deriving DecidableEq, Repr

/-- What the automaton has read of a string literal. -/
inductive StringState
  | plain
  /-- A carriage return that needs a line feed. -/
  | carriage
  | escape
  | hexHigh
  | hexLow (high : Nat)
  | brace
  /-- Digits of a code point between braces. -/
  | digits (value count : Nat)
  /-- Blanks behind an escaped line break. -/
  | gap
  /-- A carriage return among those blanks. -/
  | gapCarriage
  deriving DecidableEq, Repr

/-- What a character does to the automaton. -/
inductive StringStep
  | refuse
  | close
  | go (next : StringState)
  | emit (code : Nat) (next : StringState)
  deriving DecidableEq, Repr

/-- The character may stand in a string literal as it is. -/
def StringKind.admits : StringKind → Char → Bool
  | .text, _ => true
  | .bytes, c => c.toNat < 128
  | .terminated, c => c != '\x00'

/-- The number of an escape with one letter. -/
def StringKind.letterEscape? (kind : StringKind) (c : Char) : Option Nat :=
  match c with
  | 'n' => some 10
  | 'r' => some 13
  | 't' => some 9
  | '\\' => some 92
  | '\'' => some 39
  | '"' => some 34
  | '0' => if kind == .terminated then none else some 0
  | _ => none

/-- The number of a hexadecimal escape is admitted. -/
def StringKind.admitsHex : StringKind → Nat → Bool
  | .text, code => code < 128
  | .bytes, _ => true
  | .terminated, code => code != 0

/-- The number of a braced escape is admitted. -/
def StringKind.admitsBraced : StringKind → Nat → Bool
  | .text, _ => true
  | .bytes, _ => false
  | .terminated, code => code != 0

/-- The character is passed over behind an escaped line break. -/
def StringKind.isGap : StringKind → Char → Bool
  | .bytes, c => c == ' ' || c == '\t' || c == '\n' || c == '\r'
  | _, c => Text.isBlank c

/-- A character outside of any escape. -/
def plainStep (kind : StringKind) (c : Char) : StringStep :=
  if c == '"' then .close
  else if c == '\\' then .go .escape
  else if c == '\r' then .go .carriage
  else if kind.admits c then .emit c.toNat .plain
  else .refuse

/-- The character behind a backslash. -/
def escapeStep (kind : StringKind) (c : Char) : StringStep :=
  match kind.letterEscape? c with
  | some code => .emit code .plain
  | none =>
    if c == 'x' then .go .hexHigh
    else if c == 'u' && kind != .bytes then .go .brace
    else if c == '\n' then .go .gap
    else if c == '\r' then .go .gapCarriage
    else .refuse

/-- A character between the braces of an escape. -/
def bracedStep (kind : StringKind) (value count : Nat) (c : Char) : StringStep :=
  match Json.hexValue? c with
  | some digit => if count == 6 then .refuse else .go (.digits (16 * value + digit) (count + 1))
  | none =>
    if count == 0 then .refuse
    else if c == '_' then .go (.digits value count)
    else if c == '\x7d' && value.isValidChar && kind.admitsBraced value then .emit value .plain
    else .refuse

/-- One step of the automaton. -/
def stringStep (kind : StringKind) : StringState → Char → StringStep
  | .plain, c => plainStep kind c
  | .carriage, c => if c == '\n' then .emit 10 .plain else .refuse
  | .escape, c => escapeStep kind c
  | .hexHigh, c =>
    match Json.hexValue? c with
    | some digit => .go (.hexLow digit)
    | none => .refuse
  | .hexLow high, c =>
    match Json.hexValue? c with
    | some digit =>
      if kind.admitsHex (16 * high + digit) then .emit (16 * high + digit) .plain else .refuse
    | none => .refuse
  | .brace, c => if c == '\x7b' then .go (.digits 0 0) else .refuse
  | .digits value count, c => bracedStep kind value count c
  | .gap, c =>
    if c == '\r' then .go .gapCarriage else if kind.isGap c then .go .gap else plainStep kind c
  | .gapCarriage, c => if c == '\n' then .go .gap else .refuse

/-- Runs the automaton up to the closing quote: the numbers of the characters
denoted, and what follows the quote. -/
def stringBody? (kind : StringKind) : StringState → List Char → Option (List Nat × List Char)
  | _, [] => none
  | state, c :: rest =>
    match stringStep kind state c with
    | .refuse => none
    | .close => some ([], rest)
    | .go next => stringBody? kind next rest
    | .emit code next =>
      match stringBody? kind next rest with
      | some (codes, rest) => some (code :: codes, rest)
      | none => none

/-- The literal that a string of the given kind is. -/
def Literal.ofCodes (codes : List Nat) : StringKind → Literal
  | .text => .string (codes.map Char.ofNat)
  | .bytes => .bytes (codes.map UInt8.ofNat)
  | .terminated => .other

/-! ## Raw strings -/

/-- Reads the body of a raw string up to a quote with the closing hashes. -/
def rawBody? (kind : StringKind) (hashes : List Char) :
    List Char → Option (List Char × List Char)
  | [] => none
  | c :: rest =>
    if c == '"' && hashes.isPrefixOf rest then some ([], rest.drop hashes.length)
    else if (c == '\r' && rest.head? != some '\n') || !kind.admits c then none
    else
      match rawBody? kind hashes rest with
      | some (body, rest) => some (c :: body, rest)
      | none => none

/-- Reads a raw string behind its letters. -/
def rawString? (kind : StringKind) (text : List Char) : Option (Literal × List Char) :=
  let hashes := text.takeWhile (· == '#')
  match text.dropWhile (· == '#') with
  | '"' :: rest =>
    if 255 < hashes.length then none
    else
      (rawBody? kind hashes rest).map fun (body, rest) =>
        (.ofCodes (body.map Char.toNat) kind, rest)
  | _ => none

/-- Reads a string with escapes behind its opening quote. -/
def cookedString? (kind : StringKind) (text : List Char) : Option (Literal × List Char) :=
  (stringBody? kind .plain text).map fun (codes, rest) => (.ofCodes codes kind, rest)

/-! ## Characters -/

/-- Reads the digits of a code point up to the closing brace. -/
def bracedCode? (value count : Nat) : List Char → Option (List Char)
  | [] => none
  | c :: rest =>
    match bracedStep .text value count c with
    | .go (.digits value count) => bracedCode? value count rest
    | .emit _ _ => some rest
    | _ => none

/-- Reads an escape of a character literal behind the backslash. -/
def characterEscape? : List Char → Option (List Char)
  | 'x' :: a :: b :: rest =>
    match Json.hexValue? a, Json.hexValue? b with
    | some high, some _ => if high < 8 then some rest else none
    | _, _ => none
  | 'u' :: c :: rest => if c == '\x7b' then bracedCode? 0 0 rest else none
  | c :: rest => if (StringKind.text.letterEscape? c).isSome then some rest else none
  | [] => none

/-- Reads an escape of a byte literal behind the backslash. -/
def byteEscape? : List Char → Option (List Char)
  | 'x' :: a :: b :: rest =>
    if (Json.hexValue? a).isSome && (Json.hexValue? b).isSome then some rest else none
  | c :: rest => if (StringKind.bytes.letterEscape? c).isSome then some rest else none
  | [] => none

/-- Reads the closing quote of a character. -/
def closingQuote? : List Char → Option (List Char)
  | '\'' :: rest => some rest
  | _ => none

/-- Reads a character behind its opening quote. -/
def character? : List Char → Option (List Char)
  | '\\' :: rest => (characterEscape? rest).bind closingQuote?
  | _ :: rest => closingQuote? rest
  | [] => none

/-- Reads a byte behind its opening quote. -/
def byte? : List Char → Option (List Char)
  | '\\' :: rest => (byteEscape? rest).bind closingQuote?
  | c :: rest => if c.toNat < 128 then closingQuote? rest else none
  | [] => none

/-! ## Numbers -/

/-- Reads an identifier of any kind. -/
def anyWord? : List Char → Option (List Char × List Char)
  | [] => none
  | c :: rest =>
    if Text.isIdentifierStart c then
      some (c :: rest.takeWhile Text.isIdentifierContinue, rest.dropWhile Text.isIdentifierContinue)
    else none

/-- The text behind the suffix of a literal. -/
def afterSuffix (text : List Char) : List Char :=
  match anyWord? text with
  | some (_, rest) => rest
  | none => text

/-- The text starts an identifier. -/
def startsWord : List Char → Bool
  | c :: _ => Text.isIdentifierStart c
  | [] => false

/-- The text does not continue an identifier. -/
def isWordBreak : List Char → Bool
  | c :: _ => !Text.isIdentifierContinue c
  | [] => true

/-- The character is a digit or an underscore. -/
def isDigitOrGap (c : Char) : Bool :=
  c.isDigit || c == '_'

/-- Reads an exponent behind its letter; it has at most one sign and needs a
digit. -/
def exponentEnd? (hasSign hasValue : Bool) : List Char → Option (List Char)
  | [] => if hasValue then some [] else none
  | c :: rest =>
    if c == '+' || c == '-' then
      if hasValue then some (c :: rest) else if hasSign then none else exponentEnd? true false rest
    else if c.isDigit then exponentEnd? hasSign true rest
    else if c == '_' then exponentEnd? hasSign hasValue rest
    else if hasValue then some (c :: rest) else none

/-- Reads the exponent of a float if there is one. -/
def afterExponent (text : List Char) : List Char :=
  match text with
  | c :: rest => if c == 'e' || c == 'E' then (exponentEnd? false false rest).getD text else text
  | [] => []

/-- The text behind the digits of a float: digits with a point or an exponent.
A point before another point or a name belongs to no number. -/
def floatEnd? (text : List Char) : Option (List Char) :=
  match text with
  | [] => none
  | first :: _ =>
    if !first.isDigit then none
    else
      match text.dropWhile isDigitOrGap with
      | '.' :: rest =>
        if startsWord rest || rest.head? == some '.' then none
        else some (afterExponent (rest.dropWhile isDigitOrGap))
      | c :: rest => if c == 'e' || c == 'E' then exponentEnd? false false rest else none
      | [] => none

/-- The base of an integer and the text behind its mark. -/
def integerBase : List Char → Nat × List Char
  | '0' :: 'x' :: rest => (16, rest)
  | '0' :: 'o' :: rest => (8, rest)
  | '0' :: 'b' :: rest => (2, rest)
  | text => (10, text)

/-- The text behind the digits of an integer. A decimal digit outside the base
is refused, and so is an underscore in front of a decimal number. -/
def digitsEnd? (base : Nat) (isEmpty : Bool) : List Char → Option (List Char)
  | [] => if isEmpty then none else some []
  | c :: rest =>
    let stop : Option (List Char) := if isEmpty then none else some (c :: rest)
    match Json.hexValue? c with
    | some digit =>
      if digit < base then digitsEnd? base false rest else if c.isDigit then none else stop
    | none =>
      if c == '_' then if isEmpty && base == 10 then none else digitsEnd? base isEmpty rest
      else stop

/-- The text behind the digits of an integer and their mark. -/
def integerEnd? (text : List Char) : Option (List Char) :=
  let (base, digits) := integerBase text
  digitsEnd? base true digits

/-- The text behind a number and its suffix. -/
def numberEnd? (text : List Char) : Option (List Char) :=
  let whole (rest : List Char) : Option (List Char) :=
    if isWordBreak (afterSuffix rest) then some (afterSuffix rest) else none
  ((floatEnd? text).bind whole).or ((integerEnd? text).bind whole)

/-- What follows the letter of an exponent makes the number a float. -/
def isExponent (hasValue : Bool) : List Char → Bool
  | [] => hasValue
  | c :: rest =>
    if c == '_' then isExponent hasValue rest
    else if c == '+' || c == '-' then true
    else if c.isDigit then isExponent true rest
    else hasValue

/-- The value of an integer with underscores and a suffix; `none` for a
float. -/
def integerValue? (base : Nat) (value : Nat) (isEmpty : Bool) : List Char → Option Nat
  | [] => if isEmpty then none else some value
  | c :: rest =>
    let stop : Option Nat := if isEmpty then none else some value
    if c == '_' then integerValue? base value isEmpty rest
    else if base == 10 && c == '.' then none
    else if base == 10 && (c == 'e' || c == 'E') then if isExponent false rest then none else stop
    else
      match Json.hexValue? c with
      | some digit =>
        if c.isDigit || base == 16 then
          if digit < base then integerValue? base (base * value + digit) false rest else none
        else stop
      | none => stop

/-- What follows the letter of an exponent, underscores aside, starts one. -/
def startsExponent (text : List Char) : Bool :=
  match text.dropWhile (· == '_') with
  | c :: _ => c == '+' || c == '-' || c.isDigit
  | [] => false

/-- The digits of a float: underscores, a plus sign and the suffix are left
out, and the exponent has a small letter. -/
def floatDigits (inExponent : Bool) : List Char → List Char
  | [] => []
  | c :: rest =>
    if c == '_' || c == '+' then floatDigits inExponent rest
    else if c.isDigit || c == '.' || c == '-' then c :: floatDigits inExponent rest
    else if (c == 'e' || c == 'E') && !inExponent && startsExponent rest then
      'e' :: floatDigits true rest
    else []

/-- What a number denotes. -/
def Literal.ofNumber (text : List Char) : Literal :=
  let (base, digits) := integerBase text
  match integerValue? base 0 true digits with
  | some value => .integer (Nat.toDigits 10 value)
  | none => .float (floatDigits false text)

/-! ## All literals -/

/-- Reads a literal without its suffix. -/
def unsuffixed? (text : List Char) : Option (Literal × List Char) :=
  let denotesOther (rest : Option (List Char)) : Option (Literal × List Char) :=
    rest.map fun rest => (Literal.other, rest)
  match text with
  | '"' :: rest => cookedString? .text rest
  | 'b' :: '"' :: rest => cookedString? .bytes rest
  | 'b' :: '\'' :: rest => denotesOther (byte? rest)
  | 'c' :: '"' :: rest => cookedString? .terminated rest
  | 'b' :: 'r' :: rest => rawString? .bytes rest
  | 'c' :: 'r' :: rest => rawString? .terminated rest
  | 'r' :: rest => rawString? .text rest
  | '\'' :: rest => denotesOther (character? rest)
  | _ => none

/-- Reads a literal. -/
def literal? (text : List Char) : Option (Literal × List Char) :=
  match unsuffixed? text with
  | some (value, rest) => some (value, afterSuffix rest)
  | none =>
    (numberEnd? text).map fun rest =>
      (.ofNumber (text.take (text.length - rest.length)), rest)

end NamedConstants.Source
