import NamedConstants.Text.Blank
import NamedConstants.Text.Letter
import NamedConstants.Text.Piece

/-!
# Documentation of a member

The first line of a member's documentation lists its names between commas and
may end in a comment after a semicolon. The word `invalid` among the names
marks the member. Further lines continue the comment.
-/

set_option autoImplicit false

namespace NamedConstants

/-- What the documentation of a member says. -/
structure MemberDoc where
  /-- The names, in order. -/
  aliases : List String
  isValid : Bool
  comment : Option String
  deriving DecidableEq, Repr

namespace MemberDoc

/-- The character is part of a word. -/
def isWordChar (c : Char) : Bool :=
  Text.isAlphanumeric c || c == '_'

/-- The word that marks a member. -/
def invalidWord : List Char := "invalid".toList

/-- The word stands somewhere in the text as a word of its own. -/
def containsWord (word text : List Char) : Bool :=
  (Text.pieces (fun c => !isWordChar c) text).contains word

/-- The first line before its comment. -/
def nameList (line : List Char) : List Char :=
  match Text.cut? ';' line with
  | some (names, _) => names
  | none => line

/-- The comment of the first line, empty when there is none. -/
def lineComment (line : List Char) : List Char :=
  match Text.cut? ';' line with
  | some (_, comment) => Text.trim comment
  | none => []

/-- The names of a list that marks the member: the marker is dropped wherever
its letters stand. -/
def unmarked (names : List Char) : List Char :=
  if containsWord invalidWord names then Text.replaceAll invalidWord [] names else names

/-- The names between commas that are not empty. -/
def aliasesOf (names : List Char) : List (List Char) :=
  ((Text.pieces (· == ',') names).map Text.trim).filter fun name => !name.isEmpty

/-- The parts of a comment that are not empty, joined by blanks. -/
def commentOf (parts : List (List Char)) : Option (List Char) :=
  match parts.filter fun part => !part.isEmpty with
  | [] => none
  | part :: others => some (Text.join [' '] (part :: others))

/-- What documentation lines say. -/
def ofLines : List String → MemberDoc
  | [] => ⟨[], true, none⟩
  | first :: others =>
    let names := nameList first.toList
    { aliases := (aliasesOf (unmarked names)).map String.ofList
      isValid := !containsWord invalidWord names
      comment := (commentOf (lineComment first.toList ::
        others.map fun line => Text.trim line.toList)).map String.ofList }

end MemberDoc

end NamedConstants
