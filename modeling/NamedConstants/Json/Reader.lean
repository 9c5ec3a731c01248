import NamedConstants.Json.Number

/-!
# Reading JSON

The text is cut into tokens (`tokens?`), and the tokens are read one by one with
a stack of the containers that are open (`Reading.step`). The stack holds at most
`depthLimit` containers.
-/

set_option autoImplicit false

namespace NamedConstants.Json

/-! ## Tokens -/

/-- A token of JSON text. -/
inductive Token
  | openArray
  | closeArray
  | openObject
  | closeObject
  | comma
  | colon
  | string (value : String)
  | scalar (value : Json)

/-- The value of a hexadecimal digit. -/
def hexValue? (c : Char) : Option Nat :=
  if '0' ≤ c ∧ c ≤ '9' then some (c.toNat - 48)
  else if 'a' ≤ c ∧ c ≤ 'f' then some (c.toNat - 87)
  else if 'A' ≤ c ∧ c ≤ 'F' then some (c.toNat - 55)
  else none

/-- The number of four hexadecimal digits. -/
def hexNumber? (a b c d : Char) : Option Nat := do
  let a ← hexValue? a
  let b ← hexValue? b
  let c ← hexValue? c
  let d ← hexValue? d
  return ((a * 16 + b) * 16 + c) * 16 + d

/-- The character behind a backslash, if it stands for one. -/
def escaped? (c : Char) : Option Char :=
  if c == '"' || c == '\\' || c == '/' then some c
  else if c == 'b' then some '\x08'
  else if c == 'f' then some '\x0c'
  else if c == 'n' then some '\n'
  else if c == 'r' then some '\r'
  else if c == 't' then some '\t'
  else none

/-- Reads the rest of a string up to its closing quote. A character above the
first 65536 may be written as two numbers, and only then may a number be one of
a pair. -/
def stringBody? : List Char → Option (List Char × List Char)
  | [] => none
  | '"' :: rest => some ([], rest)
  | '\\' :: 'u' :: a :: b :: c :: d :: rest =>
    match hexNumber? a b c d with
    | none => none
    | some high =>
      if 0xDC00 ≤ high ∧ high ≤ 0xDFFF then none
      else if 0xD800 ≤ high ∧ high ≤ 0xDBFF then
        match rest with
        | '\\' :: 'u' :: a :: b :: c :: d :: rest =>
          match hexNumber? a b c d with
          | none => none
          | some low =>
            if 0xDC00 ≤ low ∧ low ≤ 0xDFFF then
              (stringBody? rest).map fun (text, rest) =>
                (Char.ofNat (0x10000 + (high - 0xD800) * 0x400 + (low - 0xDC00)) :: text, rest)
            else none
        | _ => none
      else (stringBody? rest).map fun (text, rest) => (Char.ofNat high :: text, rest)
  | '\\' :: c :: rest =>
    match escaped? c with
    | none => none
    | some c => (stringBody? rest).map fun (text, rest) => (c :: text, rest)
  | c :: rest =>
    if c.toNat < 0x20 || c == '\\' then none
    else (stringBody? rest).map fun (text, rest) => (c :: text, rest)

/-- The characters between tokens. -/
def isSpace (c : Char) : Bool :=
  c == ' ' || c == '\n' || c == '\r' || c == '\t'

/-- Reads the token at the front of a text that starts with no blank. -/
def token? : List Char → Option (Token × List Char)
  | '[' :: rest => some (.openArray, rest)
  | ']' :: rest => some (.closeArray, rest)
  | '\x7b' :: rest => some (.openObject, rest)
  | '\x7d' :: rest => some (.closeObject, rest)
  | ',' :: rest => some (.comma, rest)
  | ':' :: rest => some (.colon, rest)
  | '"' :: rest => (stringBody? rest).map fun (text, rest) => (.string (String.ofList text), rest)
  | 'n' :: 'u' :: 'l' :: 'l' :: rest => some (.scalar .null, rest)
  | 't' :: 'r' :: 'u' :: 'e' :: rest => some (.scalar (.bool true), rest)
  | 'f' :: 'a' :: 'l' :: 's' :: 'e' :: rest => some (.scalar (.bool false), rest)
  | text => (number? text).map fun (value, rest) => (.scalar value, rest)

/-- Cuts a text into tokens. The number bounds the tokens that are left; a text
has no more tokens than characters. -/
def tokensWithin? : Nat → List Char → Option (List Token)
  | 0, text => if (text.dropWhile isSpace).isEmpty then some [] else none
  | bound + 1, text =>
    match text.dropWhile isSpace with
    | [] => some []
    | text =>
      match token? text with
      | some (token, rest) => (tokensWithin? bound rest).map (token :: ·)
      | none => none

/-- The tokens of a text. -/
def tokens? (text : List Char) : Option (List Token) :=
  tokensWithin? text.length text

/-! ## Values -/

/-- A container that is still open. An object holds the key whose value is being
read. -/
inductive Frame
  | array (elements : List Json)
  | object (members : Members) (key : String)

/-- What the reader waits for. -/
inductive Expectation
  /-- A value. -/
  | value
  /-- The first element of an array or its end. -/
  | element
  /-- The first key of an object or its end. -/
  | firstKey
  /-- A key. -/
  | key
  /-- The colon behind a key. -/
  | colon (key : String)
  /-- A comma, the end of the container, or the end of the text. -/
  | next (value : Json)

/-- The state of the reader. -/
structure Reading where
  stack : List Frame
  expectation : Expectation

/-- The number of containers that may be open at once. -/
def depthLimit : Nat := 127

namespace Reading

/-- The state before the first token. -/
def start : Reading := ⟨[], .value⟩

/-- Reads the first token of a value. -/
def stepValue (stack : List Frame) : Token → Option Reading
  | .scalar value => some ⟨stack, .next value⟩
  | .string value => some ⟨stack, .next (.string value)⟩
  | .openArray => if stack.length < depthLimit then some ⟨.array [] :: stack, .element⟩ else none
  | .openObject =>
    if stack.length < depthLimit then some ⟨.object [] "" :: stack, .firstKey⟩ else none
  | _ => none

/-- Reads one token. -/
def step (state : Reading) (token : Token) : Option Reading :=
  match state.expectation, token, state.stack with
  | .value, token, stack => stepValue stack token
  | .element, .closeArray, .array elements :: stack => some ⟨stack, .next (.array elements)⟩
  | .element, token, stack => stepValue stack token
  | .firstKey, .closeObject, .object members _ :: stack => some ⟨stack, .next (.object members)⟩
  | .firstKey, .string key, stack => some ⟨stack, .colon key⟩
  | .key, .string key, stack => some ⟨stack, .colon key⟩
  | .colon key, .colon, .object members _ :: stack => some ⟨.object members key :: stack, .value⟩
  | .next value, .comma, .array elements :: stack =>
    some ⟨.array (elements ++ [value]) :: stack, .value⟩
  | .next value, .comma, .object members key :: stack =>
    some ⟨.object (members.insert key value) "" :: stack, .key⟩
  | .next value, .closeArray, .array elements :: stack =>
    some ⟨stack, .next (.array (elements ++ [value]))⟩
  | .next value, .closeObject, .object members key :: stack =>
    some ⟨stack, .next (.object (members.insert key value))⟩
  | _, _, _ => none

/-- Reads tokens one after the other. -/
def run : Reading → List Token → Option Reading
  | state, [] => some state
  | state, token :: rest =>
    match state.step token with
    | some state => run state rest
    | none => none

/-- The value that has been read, if no container is open. -/
def result? (state : Reading) : Option Json :=
  match state.stack, state.expectation with
  | [], .next value => some value
  | _, _ => none

end Reading

/-- Reads one value from tokens. -/
def ofTokens? (tokens : List Token) : Option Json :=
  (Reading.start.run tokens).bind Reading.result?

/-- Reads one value from a text; blanks may stand around it. -/
def ofText? (text : List Char) : Option Json :=
  (tokens? text).bind ofTokens?

end NamedConstants.Json
