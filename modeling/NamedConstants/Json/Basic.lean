import NamedConstants.BinaryFloat.Rounding

/-!
# JSON values

A number is an integer of 64 bits, signed or unsigned, or a float. The members
of an object are kept in the order of their keys and each key occurs once;
`insert` keeps both, and the last value written for a key stays.
-/

set_option autoImplicit false

namespace NamedConstants

/-- A float of 64 bits. -/
abbrev Double := BinaryFloat .double

/-- A float of 32 bits. -/
abbrev Single := BinaryFloat .single

/-- A JSON value. -/
inductive Json
  | null
  | bool (value : Bool)
  | integer (value : Int)
  | float (value : Double)
  | string (value : String)
  | array (elements : List Json)
  | object (members : List (String × Json))

namespace Json

/-- The members of an object. -/
abbrev Members := List (String × Json)

/-- Writes a member at the place of its key. -/
def Members.insert (key : String) (value : Json) : Members → Members
  | [] => [(key, value)]
  | (other, old) :: rest =>
    if key < other then (key, value) :: (other, old) :: rest
    else if key = other then (key, value) :: rest
    else (other, old) :: Members.insert key value rest

/-- The value of a key. -/
def Members.find? (members : Members) (key : String) : Option Json :=
  (List.find? (fun member => member.1 == key) members).map Prod.snd

/-- The object of a list of members, read from left to right. -/
def ofMembers (members : List (String × Json)) : Json :=
  .object (members.foldl (fun sorted member => Members.insert member.1 member.2 sorted) [])

/-- A float as a JSON value: what is not finite has none and becomes null. -/
def ofDouble (x : Double) : Json :=
  if x.isFinite then .float x else .null

/-! ## Equality -/

mutual

/-- Equality of values. Integers and floats are never equal to each other; floats
are equal as numbers, so the two zeros are. -/
def equal : Json → Json → Bool
  | .null, .null => true
  | .bool x, .bool y => x == y
  | .integer x, .integer y => x == y
  | .float x, .float y => x.equal y
  | .string x, .string y => x == y
  | .array xs, .array ys => equalElements xs ys
  | .object xs, .object ys => equalMembers xs ys
  | _, _ => false

/-- Equality of arrays: as many elements, equal in pairs. -/
def equalElements : List Json → List Json → Bool
  | [], [] => true
  | x :: xs, y :: ys => equal x y && equalElements xs ys
  | _, _ => false

/-- Equality of objects: the same keys with equal values. -/
def equalMembers : List (String × Json) → List (String × Json) → Bool
  | [], [] => true
  | (key, x) :: xs, (other, y) :: ys => key == other && equal x y && equalMembers xs ys
  | _, _ => false

end

end Json

end NamedConstants
