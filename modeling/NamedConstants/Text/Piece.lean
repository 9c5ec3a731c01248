/-!
# Pieces of a text

Cutting a text at separators, cutting it once, and putting one text in the
place of every occurrence of another. Occurrences are found from left to right
and do not overlap. Bytes are cut and joined as characters are.
-/

set_option autoImplicit false

namespace NamedConstants.Text

variable {α : Type}

/-- The pieces between the characters that separate. There is one piece more
than there are separators. -/
def pieces (isSeparator : α → Bool) : List α → List (List α)
  | [] => [[]]
  | c :: rest =>
    if isSeparator c then [] :: pieces isSeparator rest
    else
      match pieces isSeparator rest with
      | piece :: others => (c :: piece) :: others
      | [] => [[c]]

/-- The text before the first separator and the text after it. -/
def cut? [BEq α] (separator : α) : List α → Option (List α × List α)
  | [] => none
  | c :: rest =>
    if c == separator then some ([], rest)
    else (cut? separator rest).map fun (before, after) => (c :: before, after)

/-- What follows the given beginning. -/
def after? : List Char → List Char → Option (List Char)
  | [], text => some text
  | _ :: _, [] => none
  | expected :: more, c :: rest => if expected == c then after? more rest else none

/-- The text occurs somewhere in the other. -/
def occursIn (needle : List Char) : List Char → Bool
  | [] => needle.isEmpty
  | c :: rest => needle.isPrefixOf (c :: rest) || occursIn needle rest

/-- Puts a text in the place of every occurrence of a non-empty one. -/
def replaceAll (needle replacement text : List Char) : List Char :=
  go 0 text
where
  /-- `skipped` characters belong to an occurrence that is already replaced. -/
  go : Nat → List Char → List Char
    | _, [] => []
    | skipped + 1, _ :: rest => go skipped rest
    | 0, c :: rest =>
      if needle.isPrefixOf (c :: rest) then replacement ++ go (needle.length - 1) rest
      else c :: go 0 rest

/-- Joins texts with a separator between neighbours. -/
def join (separator : List α) : List (List α) → List α
  | [] => []
  | [piece] => piece
  | piece :: next :: others => piece ++ separator ++ join separator (next :: others)

end NamedConstants.Text
