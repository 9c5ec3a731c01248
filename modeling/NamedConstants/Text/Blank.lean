import NamedConstants.Text.Range

/-!
# Blank characters

The characters of the Unicode property `White_Space`, and the functions that
strip them and split at them.
-/

set_option autoImplicit false

namespace NamedConstants.Text

/-- The ranges of the property `White_Space`. -/
def blankRanges : Ranges :=
  [(0x9, 0xD), (0x20, 0x20), (0x85, 0x85), (0xA0, 0xA0), (0x1680, 0x1680), (0x2000, 0x200A),
   (0x2028, 0x2029), (0x202F, 0x202F), (0x205F, 0x205F), (0x3000, 0x3000)]

/-- The character is white space. -/
def isBlank (c : Char) : Bool :=
  blankRanges.contains c.toNat

/-- Drops the blanks in front. -/
def trimStart (text : List Char) : List Char :=
  text.dropWhile isBlank

/-- Drops the blanks at the end. -/
def trimEnd (text : List Char) : List Char :=
  (text.reverse.dropWhile isBlank).reverse

/-- Drops the blanks on both sides. -/
def trim (text : List Char) : List Char :=
  trimEnd (trimStart text)

/-- The words between blanks: none of them is empty. -/
def words (text : List Char) : List (List Char) :=
  go text []
where
  /-- `current` holds the characters of the open word, last one first. -/
  go : List Char → List Char → List (List Char)
    | [], current => if current.isEmpty then [] else [current.reverse]
    | c :: rest, current =>
      if isBlank c then
        if current.isEmpty then go rest [] else current.reverse :: go rest []
      else go rest (c :: current)

end NamedConstants.Text
