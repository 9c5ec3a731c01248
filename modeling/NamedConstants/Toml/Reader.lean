import NamedConstants.Json.Reader
import NamedConstants.Toml.Scalar

/-!
# Reading TOML

A document is read line by line: headings, assignments, comments and blank
lines. Values are strings of four forms, unquoted values, arrays and inline
tables; the last two may go over lines and nest to a fixed depth.
-/

set_option autoImplicit false

namespace NamedConstants.Toml

/-! ## Blanks, comments and line ends -/

/-- A blank inside a line. -/
def isSpace (c : Char) : Bool :=
  c == ' ' || c == '\t'

/-- Drops the blanks in front. -/
def skipSpaces (text : List Char) : List Char :=
  text.dropWhile isSpace

/-- The character may not stand in a string or a comment. -/
def isForbidden (c : Char) : Bool :=
  (c.toNat < 0x20 && c != '\t') || c == '\x7f'

/-- Reads a comment, if there is one, up to the end of its line. -/
def afterComment? : List Char → Option (List Char)
  | '#' :: rest =>
    match rest.dropWhile fun c => !isForbidden c with
    | [] => some []
    | '\n' :: after => some ('\n' :: after)
    | '\r' :: '\n' :: after => some ('\n' :: after)
    | _ => none
  | text => some text

/-- Reads the end of a line: blanks, a comment and a line break or the end of
the text. -/
def lineEnd? (text : List Char) : Option (List Char) := do
  match ← afterComment? (skipSpaces text) with
  | [] => some []
  | '\n' :: rest => some rest
  | '\r' :: '\n' :: rest => some rest
  | _ => none

/-- Drops blanks, comments and line breaks. -/
def skipLines? (text : List Char) : Option (List Char) :=
  go (text.length + 1) text
where
  /-- Every round reads a character or is the last one. -/
  go : Nat → List Char → Option (List Char)
    | 0, _ => none
    | rounds + 1, text =>
      match skipSpaces text with
      | '\n' :: rest => go rounds rest
      | '\r' :: '\n' :: rest => go rounds rest
      | '#' :: rest =>
        match afterComment? ('#' :: rest) with
        | some after => go rounds after
        | none => none
      | rest => some rest

/-! ## Strings -/

/-- Reads hexadecimal digits, as many as are asked for, and their number. -/
def hexNumber? : Nat → Nat → List Char → Option (Nat × List Char)
  | 0, value, rest => some (value, rest)
  | count + 1, value, c :: rest =>
    match Json.hexValue? c with
    | some digit => hexNumber? count (16 * value + digit) rest
    | none => none
  | _ + 1, _, [] => none

/-- Reads the number of a character. -/
def codePoint? (count : Nat) (text : List Char) : Option (Char × List Char) :=
  match hexNumber? count 0 text with
  | some (value, rest) =>
    if value.isValidChar then some (Char.ofNat value, rest) else none
  | none => none

/-- Reads an escape behind its backslash. -/
def escape? : List Char → Option (Char × List Char)
  | 'b' :: rest => some ('\x08', rest)
  | 't' :: rest => some ('\t', rest)
  | 'n' :: rest => some ('\n', rest)
  | 'f' :: rest => some ('\x0c', rest)
  | 'r' :: rest => some ('\r', rest)
  | 'e' :: rest => some ('\x1b', rest)
  | '"' :: rest => some ('"', rest)
  | '\\' :: rest => some ('\\', rest)
  | 'x' :: rest => codePoint? 2 rest
  | 'u' :: rest => codePoint? 4 rest
  | 'U' :: rest => codePoint? 8 rest
  | _ => none

/-- Reads the body of a string up to its closing quote. -/
def stringBody? : Nat → List Char → Option (List Char × List Char)
  | 0, _ => none
  | _ + 1, [] => none
  | _ + 1, '"' :: rest => some ([], rest)
  | rounds + 1, '\\' :: rest => do
    let (c, rest) ← escape? rest
    let (body, rest) ← stringBody? rounds rest
    return (c :: body, rest)
  | rounds + 1, c :: rest =>
    if isForbidden c then none
    else (stringBody? rounds rest).map fun (body, rest) => (c :: body, rest)

/-- Reads the body of a literal string up to its closing quote. -/
def literalBody? : List Char → Option (List Char × List Char)
  | [] => none
  | '\'' :: rest => some ([], rest)
  | c :: rest =>
    if isForbidden c then none
    else (literalBody? rest).map fun (body, rest) => (c :: body, rest)

/-- Drops a line break directly behind the opening quotes. -/
def afterOpening : List Char → List Char
  | '\n' :: rest => rest
  | '\r' :: '\n' :: rest => rest
  | text => text

/-- Drops a line break and all blanks and line breaks behind it; the text is
what follows a backslash. -/
def continued? (text : List Char) : Option (List Char) :=
  let isGap (c : Char) : Bool := isSpace c || c == '\n' || c == '\r'
  match afterOpening (skipSpaces text) with
  | rest =>
    if rest.length < (skipSpaces text).length then some (rest.dropWhile isGap) else none

/-- Reads the body of a string over lines up to its closing quotes, of which
the last three close it. -/
def longBody? : Nat → List Char → Option (List Char × List Char)
  | 0, _ => none
  | _ + 1, [] => none
  | _ + 1, '"' :: '"' :: '"' :: '"' :: '"' :: rest => some (['"', '"'], rest)
  | _ + 1, '"' :: '"' :: '"' :: '"' :: rest => some (['"'], rest)
  | _ + 1, '"' :: '"' :: '"' :: rest => some ([], rest)
  | rounds + 1, '\\' :: rest =>
    match continued? rest with
    | some rest => longBody? rounds rest
    | none => do
      let (c, rest) ← escape? rest
      let (body, rest) ← longBody? rounds rest
      return (c :: body, rest)
  | rounds + 1, '\r' :: '\n' :: rest =>
    (longBody? rounds rest).map fun (body, rest) => ('\r' :: '\n' :: body, rest)
  | rounds + 1, c :: rest =>
    if isForbidden c && c != '\n' then none
    else (longBody? rounds rest).map fun (body, rest) => (c :: body, rest)

/-- Reads the body of a literal string over lines up to its closing quotes, of
which the last three close it. -/
def longLiteralBody? : List Char → Option (List Char × List Char)
  | [] => none
  | '\'' :: '\'' :: '\'' :: '\'' :: '\'' :: rest => some (['\'', '\''], rest)
  | '\'' :: '\'' :: '\'' :: '\'' :: rest => some (['\''], rest)
  | '\'' :: '\'' :: '\'' :: rest => some ([], rest)
  | '\r' :: '\n' :: rest =>
    (longLiteralBody? rest).map fun (body, rest) => ('\r' :: '\n' :: body, rest)
  | c :: rest =>
    if isForbidden c && c != '\n' then none
    else (longLiteralBody? rest).map fun (body, rest) => (c :: body, rest)

/-- Reads a string of one of the four forms. -/
def quoted? : List Char → Option (List Char × List Char)
  | '"' :: '"' :: '"' :: rest => longBody? (rest.length + 1) (afterOpening rest)
  | '\'' :: '\'' :: '\'' :: rest => longLiteralBody? (afterOpening rest)
  | '"' :: rest => stringBody? (rest.length + 1) rest
  | '\'' :: rest => literalBody? rest
  | _ => none

/-! ## Keys -/

/-- The character may stand in a key without quotes. -/
def isBareKeyChar (c : Char) : Bool :=
  c.isAlphanum || c == '_' || c == '-'

/-- Reads one key. A string over lines is no key. -/
def simpleKey? (text : List Char) : Option (String × List Char) :=
  match text with
  | '"' :: '"' :: '"' :: _ => none
  | '\'' :: '\'' :: '\'' :: _ => none
  | c :: _ =>
    if c == '"' || c == '\'' then
      (quoted? text).map fun (key, rest) => (String.ofList key, rest)
    else
      match text.takeWhile isBareKeyChar with
      | [] => none
      | key => some (String.ofList key, text.dropWhile isBareKeyChar)
  | [] => none

/-- Reads keys with points between them, with blanks around all of them. -/
def keyPath? : Nat → List Char → Option (List String × List Char)
  | 0, _ => none
  | rounds + 1, text => do
    let (key, rest) ← simpleKey? (skipSpaces text)
    match skipSpaces rest with
    | '.' :: rest =>
      let (path, rest) ← keyPath? rounds rest
      return (key :: path, rest)
    | rest => return ([key], rest)

/-! ## Values -/

/-- The character ends an unquoted value. -/
def endsUnquoted (c : Char) : Bool :=
  isSpace c || c == '\n' || c == '\r' || c == ',' || c == ']' || c == '\x7d' || c == '#' ||
    c == '=' || c == '[' || c == '\x7b'

/-- The text starts with a digit. -/
def startsWithDigit : List Char → Bool
  | c :: _ => c.isDigit
  | [] => false

/-- Reads an unquoted value. A blank may stand between a date and a time. -/
def unquoted? (text : List Char) : Option (Toml × List Char) :=
  let (value, rest) := text.span fun c => !endsUnquoted c
  match date? value, rest with
  | some [], ' ' :: after =>
    if startsWithDigit after then
      let (time, rest) := after.span fun c => !endsUnquoted c
      (ofUnquoted? (value ++ ' ' :: time)).map fun value => (value, rest)
    else (ofUnquoted? value).map fun value => (value, rest)
  | _, _ => (ofUnquoted? value).map fun value => (value, rest)

/-- How deep arrays and inline tables nest at most. -/
def depthLimit : Nat := 80

mutual
/-- Reads a value. The first argument bounds the number of rounds, the second
one the nesting. -/
def value? : Nat → Nat → List Char → Option (Toml × List Char)
  | 0, _, _ => none
  | rounds + 1, depth, text =>
    match text with
    | '[' :: rest =>
      match depth with
      | 0 => none
      | depth + 1 => (elements? rounds depth rest).map fun (items, rest) => (.array items, rest)
    | c :: rest =>
      if c == '\x7b' then
        match depth with
        | 0 => none
        | depth + 1 => do
          let (assignments, rest) ← assignments? rounds depth rest
          return (← inlineTable? assignments, rest)
      else if c == '"' || c == '\'' then
        (quoted? (c :: rest)).map fun (body, rest) => (.string (String.ofList body), rest)
      else unquoted? (c :: rest)
    | [] => none

/-- Reads the elements of an array up to its closing bracket. -/
def elements? : Nat → Nat → List Char → Option (List Toml × List Char)
  | 0, _, _ => none
  | rounds + 1, depth, text => do
    match ← skipLines? text with
    | ']' :: rest => return ([], rest)
    | text =>
      let (item, rest) ← value? rounds depth text
      match ← skipLines? rest with
      | ']' :: rest => return ([item], rest)
      | ',' :: rest =>
        let (items, rest) ← elements? rounds depth rest
        return (item :: items, rest)
      | _ => none

/-- Reads the assignments of an inline table up to its closing brace. -/
def assignments? : Nat → Nat → List Char → Option (List Assignment × List Char)
  | 0, _, _ => none
  | rounds + 1, depth, text => do
    match ← skipLines? text with
    | [] => none
    | c :: rest =>
      if c == '\x7d' then return ([], rest)
      else
        let (assignment, rest) ← assignment? rounds depth (c :: rest)
        match ← skipLines? rest with
        | [] => none
        | c :: rest =>
          if c == '\x7d' then return ([assignment], rest)
          else if c == ',' then
            let (assignments, rest) ← assignments? rounds depth rest
            return (assignment :: assignments, rest)
          else none

/-- Reads a key, an equals sign and a value. -/
def assignment? : Nat → Nat → List Char → Option (Assignment × List Char)
  | 0, _, _ => none
  | rounds + 1, depth, text => do
    match ← keyPath? (text.length + 1) text with
    | (path, '=' :: rest) =>
      let (value, rest) ← value? rounds depth (skipSpaces rest)
      return ((path, value), rest)
    | _ => none
end

/-! ## Documents -/

/-- Reads a heading behind its opening bracket, up to the end of its line. -/
def heading? (text : List Char) : Option (Heading × List Char) := do
  match text with
  | '[' :: rest =>
    match ← keyPath? (rest.length + 1) rest with
    | (path, ']' :: ']' :: rest) => return (.element path, ← lineEnd? rest)
    | _ => none
  | rest =>
    match ← keyPath? (rest.length + 1) rest with
    | (path, ']' :: rest) => return (.table path, ← lineEnd? rest)
    | _ => none

/-- Reads the parts of a document. The heading and the assignments of the part
that is being read are at hand, the assignments in reverse. -/
def sections? : Nat → Heading → List Assignment → List Char → Option (List Section)
  | 0, _, _, _ => none
  | rounds + 1, heading, assignments, text => do
    match ← skipLines? text with
    | [] => return [⟨heading, assignments.reverse⟩]
    | '[' :: rest =>
      let (next, rest) ← heading? rest
      let sections ← sections? rounds next [] rest
      return ⟨heading, assignments.reverse⟩ :: sections
    | text =>
      let (assignment, rest) ← assignment? (8 * text.length + 8) depthLimit text
      sections? rounds heading (assignment :: assignments) (← lineEnd? rest)

/-- Reads a document. A byte order mark in front does not count. -/
def ofText? (text : List Char) : Option Members := do
  let text := match text with
    | '\uFEFF' :: rest => rest
    | text => text
  ofSections? (← sections? (text.length + 1) .top [] text)

end NamedConstants.Toml
