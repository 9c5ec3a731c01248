import NamedConstants.Json.Writer

/-!
# Writing JSON over several lines

Every element and every member stands on a line of its own, two blanks further
in than the bracket around it. A container without content stays on its line.
-/

set_option autoImplicit false

namespace NamedConstants.Json

/-- The start of a line at a depth. -/
def indentation (depth : Nat) : List Char :=
  '\n' :: List.replicate (2 * depth) ' '

mutual

/-- The text of a value whose lines are at a depth. -/
def writeIndented (depth : Nat) : Json → List Char
  | .array [] => ['[', ']']
  | .array (value :: rest) =>
    '[' :: writeIndentedElements (depth + 1) (value :: rest) ++ indentation depth ++ [']']
  | .object [] => ['\x7b', '\x7d']
  | .object (member :: rest) =>
    '\x7b' :: writeIndentedMembers (depth + 1) (member :: rest) ++ indentation depth ++ ['\x7d']
  | value => write value

/-- The lines of elements at a depth. -/
def writeIndentedElements (depth : Nat) : List Json → List Char
  | [] => []
  | [value] => indentation depth ++ writeIndented depth value
  | value :: rest =>
    indentation depth ++ writeIndented depth value ++ ',' :: writeIndentedElements depth rest

/-- The lines of members at a depth. -/
def writeIndentedMembers (depth : Nat) : List (String × Json) → List Char
  | [] => []
  | [(key, value)] =>
    indentation depth ++ writeString key ++ ':' :: ' ' :: writeIndented depth value
  | (key, value) :: rest =>
    indentation depth ++ writeString key ++ ':' :: ' ' :: writeIndented depth value ++
      ',' :: writeIndentedMembers depth rest

end

/-- The text of a value over several lines. -/
def toIndentedText (value : Json) : String :=
  String.ofList (writeIndented 0 value)

end NamedConstants.Json
