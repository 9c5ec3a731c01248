/-!
# Layout of written code

Code is written line by line. A block is a line that opens it, indented lines
and a line that closes it; an empty line stays empty.
-/

set_option autoImplicit false

namespace NamedConstants.Companion

/-- Lines of code without their line ends. -/
abbrev Lines := List String

/-- A line inside of a block. -/
def indented (line : String) : String :=
  if line.isEmpty then line else "    " ++ line

/-- Lines between an opening and a closing one. -/
def enclosed (opening closing : String) (body : Lines) : Lines :=
  [opening] ++ body.map indented ++ [closing]

/-- Lines between braces behind a head. -/
def block (head : String) (body : Lines) : Lines :=
  enclosed (head ++ " \x7b") "\x7d" body

/-- Groups of lines with an empty line between neighbours. -/
def spaced : List Lines → Lines
  | [] => []
  | [lines] => lines
  | lines :: next :: others => lines ++ [""] ++ spaced (next :: others)

/-- The text of lines, each with its line end. -/
def text (lines : Lines) : String :=
  lines.foldr (fun line rest => line ++ "\n" ++ rest) ""

end NamedConstants.Companion
