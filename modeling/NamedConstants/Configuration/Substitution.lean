import NamedConstants.Failure
import NamedConstants.Text.Piece

/-!
# Variables of the environment in a text

A reference names a variable between braces behind a dollar sign and may give a
fallback. The references of a text are found first, from left to right and
without overlap; then every one of them is replaced, one after the other,
wherever its spelling stands in the text as it is by then.
-/

set_option autoImplicit false

namespace NamedConstants

/-- The variables that are set, with their values. -/
abbrev Environment := List (String × String)

/-- A reference to a variable. -/
structure Reference where
  name : List Char
  fallback : Option (List Char)
  deriving DecidableEq, Repr

namespace Reference

/-- The spelling of a reference. -/
def text (reference : Reference) : List Char :=
  let fallback :=
    match reference.fallback with
    | some fallback => ':' :: '-' :: fallback
    | none => []
  '$' :: '\x7b' :: reference.name ++ fallback ++ ['\x7d']

/-- The character may stand in the name of a variable. -/
def isNameChar (c : Char) : Bool :=
  c != '\x7d' && c != ':'

/-- The character may stand in a fallback. -/
def isFallbackChar (c : Char) : Bool :=
  c != '\x7d'

/-- Reads the end of a reference behind its name. -/
def fallback? : List Char → Option (Option (List Char))
  | ':' :: '-' :: rest =>
    if (rest.dropWhile isFallbackChar).isEmpty then none
    else some (some (rest.takeWhile isFallbackChar))
  | c :: _ => if c == '\x7d' then some none else none
  | [] => none

/-- The reference that a text starts with. -/
def atStart? : List Char → Option Reference
  | '$' :: '\x7b' :: rest =>
    match rest.takeWhile isNameChar with
    | [] => none
    | name => (fallback? (rest.dropWhile isNameChar)).map fun fallback => ⟨name, fallback⟩
  | _ => none

/-- The references of a text, from left to right and without overlap. -/
def all (text : List Char) : List Reference :=
  go 0 text
where
  /-- `skipped` characters belong to the reference found last. -/
  go : Nat → List Char → List Reference
    | _, [] => []
    | skipped + 1, _ :: rest => go skipped rest
    | 0, c :: rest =>
      match atStart? (c :: rest) with
      | some reference => reference :: go (reference.text.length - 1) rest
      | none => go 0 rest

/-- What a reference stands for. -/
def value (environment : Environment) (reference : Reference) : Result (List Char) :=
  match environment.lookup (String.ofList reference.name), reference.fallback with
  | some value, _ => .ok value.toList
  | none, some fallback => .ok fallback
  | none, none => .error (.variableNotSet (String.ofList reference.name))

/-- Replaces references one after the other. -/
def replaceEach (environment : Environment) : List Reference → List Char → Result (List Char)
  | [], text => .ok text
  | reference :: others, text => do
    let value ← reference.value environment
    replaceEach environment others (Text.replaceAll reference.text value text)

end Reference

/-- Replaces the references of a text by what they stand for. -/
def substitute (environment : Environment) (text : String) : Result String :=
  (Reference.replaceEach environment (Reference.all text.toList) text.toList).map String.ofList

end NamedConstants
