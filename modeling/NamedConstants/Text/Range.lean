/-!
# Sets of characters as ranges of code points

A property of characters is stored as a list of closed ranges. Tables are
small enough that a linear search serves.
-/

set_option autoImplicit false

namespace NamedConstants.Text

/-- A set of code points, as closed ranges. -/
abbrev Ranges := List (Nat × Nat)

/-- A code point lies in one of the ranges. -/
def Ranges.contains (ranges : Ranges) (point : Nat) : Bool :=
  ranges.any fun range => range.1 ≤ point && point ≤ range.2

end NamedConstants.Text
