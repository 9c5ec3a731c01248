import NamedConstants.Source.Token.Basic
import NamedConstants.Text.Piece

/-!
# Reading tokens

Blanks and plain comments stand between tokens and mean nothing. A comment of
three slashes or two stars documents what follows it, one with an exclamation
mark documents what it stands in; both are read as attributes. Block comments
nest. Delimiters have to match.
-/

set_option autoImplicit false

namespace NamedConstants.Source

/-! ## Blanks and comments -/

/-- The character stands between tokens. Marks of the writing direction do so
too. -/
def isGap (c : Char) : Bool :=
  Text.isBlank c || c == '\u200E' || c == '\u200F'

/-- Reads a block comment behind its opening mark: its content and what
follows. `depth` comments are open inside of it. -/
def blockComment? : Nat → List Char → Option (List Char × List Char)
  | 0, '*' :: '/' :: rest => some ([], rest)
  | depth + 1, '*' :: '/' :: rest =>
    (blockComment? depth rest).map fun (body, rest) => ('*' :: '/' :: body, rest)
  | depth, '/' :: '*' :: rest =>
    (blockComment? (depth + 1) rest).map fun (body, rest) => ('/' :: '*' :: body, rest)
  | depth, c :: rest => (blockComment? depth rest).map fun (body, rest) => (c :: body, rest)
  | _, [] => none

/-- The rest of a line and what follows it. A carriage return before the line
feed belongs to neither. -/
def restOfLine : List Char → List Char × List Char
  | [] => ([], [])
  | '\n' :: rest => ([], '\n' :: rest)
  | '\r' :: '\n' :: rest => ([], '\n' :: rest)
  | c :: rest =>
    let (line, rest) := restOfLine rest
    (c :: line, rest)

/-- What follows a plain comment; `none` if there is none. -/
def afterComment? : List Char → Option (List Char)
  | '/' :: '/' :: '/' :: '/' :: rest => some (restOfLine rest).2
  | '/' :: '/' :: '/' :: _ => none
  | '/' :: '/' :: '!' :: _ => none
  | '/' :: '/' :: rest => some (restOfLine rest).2
  | '/' :: '*' :: '*' :: '/' :: rest => some rest
  | '/' :: '*' :: '*' :: '*' :: rest => (blockComment? 0 ('*' :: '*' :: rest)).map (·.2)
  | '/' :: '*' :: '*' :: _ => none
  | '/' :: '*' :: '!' :: _ => none
  | '/' :: '*' :: rest => (blockComment? 0 rest).map (·.2)
  | _ => none

/-- Drops blanks and plain comments. -/
def skipGaps (text : List Char) : List Char :=
  go (text.length + 1) text
where
  /-- Every round drops a comment or is the last one. -/
  go : Nat → List Char → List Char
    | 0, text => text
    | rounds + 1, text =>
      let text := text.dropWhile isGap
      match afterComment? text with
      | some rest => go rounds rest
      | none => text

/-- A documentation comment. -/
structure Comment where
  text : List Char
  /-- It documents what it stands in. -/
  isInner : Bool
  deriving DecidableEq, Repr

/-- Every carriage return stands before a line feed. -/
def hasPairedReturns : List Char → Bool
  | [] => true
  | '\r' :: '\n' :: rest => hasPairedReturns rest
  | '\r' :: _ => false
  | _ :: rest => hasPairedReturns rest

/-- Reads a documentation comment and returns what follows it. -/
def comment? (text : List Char) : Option (Comment × List Char) :=
  let found : Option (Comment × List Char) :=
    match text with
    | '/' :: '/' :: '!' :: rest =>
      let (line, rest) := restOfLine rest
      some (⟨line, true⟩, rest)
    | '/' :: '*' :: '!' :: rest =>
      (blockComment? 0 ('!' :: rest)).map fun (body, rest) => (⟨body.drop 1, true⟩, rest)
    | '/' :: '/' :: '/' :: rest =>
      let (line, rest) := restOfLine rest
      some (⟨line, false⟩, rest)
    | '/' :: '*' :: '*' :: rest =>
      (blockComment? 0 ('*' :: rest)).map fun (body, rest) => (⟨body.drop 1, false⟩, rest)
    | _ => none
  match found with
  | some (comment, rest) => if hasPairedReturns comment.text then some (comment, rest) else none
  | none => none

/-- The attribute that a documentation comment stands for. -/
def Comment.toTokens (comment : Comment) : List Token :=
  let content : Token :=
    .group .bracket [.word "doc" false, .mark '=' false, .literal (.string comment.text)]
  if comment.isInner then [.mark '#' false, .mark '!' false, content]
  else [.mark '#' false, content]

/-! ## Words, lifetimes and marks -/

/-- The words that cannot be raw. -/
def neverRaw : List String := ["_", "super", "self", "Self", "crate"]

/-- Reads a word with or without the raw prefix. -/
def word? : List Char → Option (Token × List Char)
  | 'r' :: '#' :: rest =>
    match anyWord? rest with
    | some (name, rest) =>
      if neverRaw.contains (String.ofList name) then none
      else some (.word (String.ofList name) true, rest)
    | none => none
  | text => (anyWord? text).map fun (name, rest) => (.word (String.ofList name) false, rest)

/-- The beginnings that belong to string literals, even to broken ones. -/
def literalBeginnings : List (List Char) :=
  ["r\"", "r#\"", "r##", "b\"", "b'", "br\"", "br#", "c\"", "cr\"", "cr#"].map String.toList

/-- The characters that are marks. -/
def markChars : List Char := "~!@#$%^&*-=+|;:,<.>/?'".toList

/-- The text starts with a mark that is not the start of a comment. -/
def startsMark : List Char → Bool
  | '/' :: '/' :: _ => false
  | '/' :: '*' :: _ => false
  | c :: _ => markChars.contains c
  | [] => false

/-- Reads a lifetime behind its quote. A quote behind the name would make it a
character that is not closed properly, a hash a string. -/
def lifetime? (text : List Char) : Option (Token × List Char) :=
  match word? text with
  | some (.word name isRaw, rest) =>
    match rest with
    | '\'' :: _ => none
    | '#' :: _ => if isRaw then some (.lifetime (wordText name isRaw), rest) else none
    | _ => some (.lifetime (wordText name isRaw), rest)
  | _ => none

/-- Reads a token that is no group. -/
def leaf? (text : List Char) : Option (Token × List Char) :=
  match literal? text with
  | some (value, rest) => some (.literal value, rest)
  | none =>
    match text with
    | '\'' :: rest => lifetime? rest
    | c :: rest =>
      if startsMark (c :: rest) then some (.mark c (startsMark rest), rest)
      else if literalBeginnings.any fun beginning => beginning.isPrefixOf (c :: rest) then none
      else word? (c :: rest)
    | [] => none

/-! ## Groups -/

/-- A token or one end of a group. -/
inductive Piece
  | token (token : Token)
  | opening (delimiter : Delimiter)
  | closing (delimiter : Delimiter)

/-- The end of a group that a character is. -/
def bracketOf? (c : Char) : Option Piece :=
  match c with
  | '(' => some (.opening .parenthesis)
  | ')' => some (.closing .parenthesis)
  | '[' => some (.opening .bracket)
  | ']' => some (.closing .bracket)
  | '\x7b' => some (.opening .brace)
  | '\x7d' => some (.closing .brace)
  | _ => none

/-- Reads the pieces of a text. Every round reads a piece or a comment. -/
def pieces? : Nat → List Char → Option (List Piece)
  | 0, _ => none
  | rounds + 1, text =>
    let text := skipGaps text
    match comment? text with
    | some (comment, rest) =>
      (pieces? rounds rest).map fun pieces => comment.toTokens.map .token ++ pieces
    | none =>
      match text with
      | [] => some []
      | c :: rest =>
        match bracketOf? c with
        | some piece => (pieces? rounds rest).map (piece :: ·)
        | none =>
          match leaf? (c :: rest) with
          | some (token, rest) => (pieces? rounds rest).map (.token token :: ·)
          | none => none

/-- A group that is not closed yet: its delimiter and the tokens before it, the
last one first. -/
abbrev OpenGroup := Delimiter × List Token

/-- Puts pieces into groups. `stack` holds the open groups, the innermost one
first, and `current` the tokens of the innermost one, the last one first. -/
def nest? : List OpenGroup → List Token → List Piece → Option (List Token)
  | [], current, [] => some current.reverse
  | _ :: _, _, [] => none
  | stack, current, .token token :: rest => nest? stack (token :: current) rest
  | stack, current, .opening delimiter :: rest => nest? ((delimiter, current) :: stack) [] rest
  | [], _, .closing _ :: _ => none
  | (opened, before) :: stack, current, .closing delimiter :: rest =>
    if opened == delimiter then
      nest? stack (.group delimiter current.reverse :: before) rest
    else none

/-- Reads the tokens of a text. -/
def tokens? (text : List Char) : Option (List Token) :=
  (pieces? (text.length + 1) text).bind (nest? [] [])

/-! ## Files -/

/-- Drops a byte order mark. -/
def afterOrderMark : List Char → List Char
  | '\uFEFF' :: rest => rest
  | text => text

/-- Drops a first line that names an interpreter. A first line that starts an
attribute is not one. -/
def afterInterpreter (text : List Char) : List Char :=
  match text with
  | '#' :: '!' :: rest =>
    match skipGaps rest with
    | '[' :: _ => text
    | _ => text.dropWhile (· != '\n')
  | _ => text

/-- Reads the tokens of a file. -/
def fileTokens? (text : List Char) : Option (List Token) :=
  tokens? (afterOrderMark (afterInterpreter (afterOrderMark text)))

end NamedConstants.Source
