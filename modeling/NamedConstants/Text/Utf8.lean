/-!
# UTF-8

Text as bytes and back. Reading is strict (`decode`), and names the first fault
and where it stands, or lenient (`decodeLossy`): then the longest piece that
starts like a character and is none is replaced by one replacement character.
-/

set_option autoImplicit false

namespace NamedConstants.Text

/-- A sequence of octets. -/
abbrev Bytes := List UInt8

/-- The UTF-8 form of a text. -/
def encode (text : List Char) : Bytes :=
  text.flatMap String.utf8EncodeChar

/-- Why a byte sequence is not UTF-8. -/
inductive Utf8Fault
  /-- `length` bytes from `position` on cannot be continued to a character. -/
  | invalid (length position : Nat)
  /-- The input ends inside the character that starts at `position`. -/
  | incomplete (position : Nat)
  deriving DecidableEq, Repr

/-- What stands at the front of a byte sequence. -/
inductive Utf8Step
  | character (c : Char) (width : Nat)
  | invalid (width : Nat)
  | incomplete
  deriving DecidableEq, Repr

/-- A byte that continues a character. -/
def isContinuation (byte : UInt8) : Bool :=
  0x80 ≤ byte.toNat && byte.toNat ≤ 0xBF

/-- The second bytes that may follow the first byte of a three-byte character:
no shorter form and no surrogate. -/
def isSecondOfThree (lead second : Nat) : Bool :=
  (lead == 0xE0 && 0xA0 ≤ second && second ≤ 0xBF) ||
    (lead == 0xED && 0x80 ≤ second && second ≤ 0x9F) ||
    (lead != 0xE0 && lead != 0xED && 0x80 ≤ second && second ≤ 0xBF)

/-- The second bytes that may follow the first byte of a four-byte character:
no shorter form and nothing above the last code point. -/
def isSecondOfFour (lead second : Nat) : Bool :=
  (lead == 0xF0 && 0x90 ≤ second && second ≤ 0xBF) ||
    (lead == 0xF4 && 0x80 ≤ second && second ≤ 0x8F) ||
    (lead != 0xF0 && lead != 0xF4 && 0x80 ≤ second && second ≤ 0xBF)

/-- The low six bits of a continuation byte. -/
def continuationBits (byte : UInt8) : Nat :=
  byte.toNat - 0x80

/-- Reads a two-byte character after its first byte. -/
def stepTwo (lead : Nat) : Bytes → Utf8Step
  | [] => .incomplete
  | second :: _ =>
    if isContinuation second then
      .character (Char.ofNat ((lead - 0xC0) * 64 + continuationBits second)) 2
    else .invalid 1

/-- Reads a three-byte character after its first byte. -/
def stepThree (lead : Nat) : Bytes → Utf8Step
  | [] => .incomplete
  | second :: rest =>
    if isSecondOfThree lead second.toNat then
      match rest with
      | [] => .incomplete
      | third :: _ =>
        if isContinuation third then
          .character (Char.ofNat (((lead - 0xE0) * 64 + continuationBits second) * 64 +
            continuationBits third)) 3
        else .invalid 2
    else .invalid 1

/-- Reads a four-byte character after its first byte. -/
def stepFour (lead : Nat) : Bytes → Utf8Step
  | [] => .incomplete
  | second :: rest =>
    if isSecondOfFour lead second.toNat then
      match rest with
      | [] => .incomplete
      | third :: rest =>
        if isContinuation third then
          match rest with
          | [] => .incomplete
          | fourth :: _ =>
            if isContinuation fourth then
              .character (Char.ofNat ((((lead - 0xF0) * 64 + continuationBits second) * 64 +
                continuationBits third) * 64 + continuationBits fourth)) 4
            else .invalid 3
        else .invalid 2
    else .invalid 1

/-- What stands at the front of the sequence `lead :: rest`. -/
def utf8Step (lead : UInt8) (rest : Bytes) : Utf8Step :=
  let first := lead.toNat
  if first < 0x80 then .character (Char.ofNat first) 1
  else if 0xC2 ≤ first && first ≤ 0xDF then stepTwo first rest
  else if 0xE0 ≤ first && first ≤ 0xEF then stepThree first rest
  else if 0xF0 ≤ first && first ≤ 0xF4 then stepFour first rest
  else .invalid 1

/-- Reads a text from its UTF-8 form; `position` counts the bytes passed. -/
def decodeFrom (position : Nat) : Bytes → Except Utf8Fault (List Char)
  | [] => .ok []
  | lead :: rest =>
    match utf8Step lead rest with
    | .character c width =>
      match decodeFrom (position + width) (rest.drop (width - 1)) with
      | .ok text => .ok (c :: text)
      | .error fault => .error fault
    | .invalid length => .error (.invalid length position)
    | .incomplete => .error (.incomplete position)
  termination_by bytes => bytes.length
  decreasing_by simp only [List.length_drop, List.length_cons]; omega

/-- Reads a text from its UTF-8 form. -/
def decode (bytes : Bytes) : Except Utf8Fault (List Char) :=
  decodeFrom 0 bytes

/-- The mark that stands for bytes that are no character. -/
def replacement : Char := '\uFFFD'

/-- Reads a text and puts the replacement character where the bytes are no
character. -/
def decodeLossy : Bytes → List Char
  | [] => []
  | lead :: rest =>
    match utf8Step lead rest with
    | .character c width => c :: decodeLossy (rest.drop (width - 1))
    | .invalid width => replacement :: decodeLossy (rest.drop (width - 1))
    | .incomplete => [replacement]
  termination_by bytes => bytes.length
  decreasing_by all_goals simp only [List.length_drop, List.length_cons]; omega

/-- The bytes are a text. -/
def isUtf8 (bytes : Bytes) : Bool :=
  (decode bytes).toOption.isSome

/-- The UTF-8 form of a string. -/
def bytesOf (text : String) : Bytes :=
  encode text.toList

/-- The string with the given UTF-8 form. -/
def stringOf (bytes : Bytes) : Except Utf8Fault String :=
  match decode bytes with
  | .ok text => .ok (String.ofList text)
  | .error fault => .error fault

/-- The text of any bytes, with replacement characters. -/
def lossyString (bytes : Bytes) : String :=
  String.ofList (decodeLossy bytes)

end NamedConstants.Text
