import Std.Data.HashMap
import NamedConstants.Scalar.Binary
import NamedConstants.Text.LetterCase

/-!
# Tables of members

A member is a raw scalar with a canonical name, further names and a mark of
validity. A table holds the members in the order of their declaration and two
maps into it: from names to positions and from raw scalars to positions. Of
members that share a name or a raw scalar the first one is found.

The map from raw scalars is keyed by the binary form, with the two zeros of a
float under one key and no key at all for what is not a number, so that the keys
of floats agree exactly where floats are equal.
-/

set_option autoImplicit false

namespace NamedConstants

/-- One declared member. -/
structure Member (kind : Kind) where
  raw : Scalar kind
  name : String
  aliases : List String
  isValid : Bool

/-- The lower case of a string. -/
def lowercase (text : String) : String :=
  String.ofList (Text.toLower text.toList)

/-- The upper case of a string. -/
def uppercase (text : String) : String :=
  String.ofList (Text.toUpper text.toList)

namespace Member

variable {kind : Kind}

/-- The canonical name, then the aliases. -/
def names (member : Member kind) : List String :=
  member.name :: member.aliases

/-- The keys under which a member is filed: its names, and in a table that
ignores case the lower case of each behind it. -/
def keys (insensitive : Bool) (member : Member kind) : List String :=
  member.names.flatMap fun name => if insensitive then [name, lowercase name] else [name]

end Member

/-- The key of a raw scalar. -/
def Scalar.key? {kind : Kind} (raw : Scalar kind) : Option Text.Bytes :=
  match raw with
  | .float x =>
    if x.isNaN then none
    else if x.isZero then some (Scalar.float { x with negative := false }).toBytes
    else some (Scalar.float x).toBytes
  | raw => some raw.toBytes

/-- The members of a family with their two maps. -/
structure Table (kind : Kind) where
  members : List (Member kind)
  byName : Std.HashMap String Nat
  byRaw : Std.HashMap Text.Bytes Nat
  insensitive : Bool

namespace Table

variable {kind : Kind}

/-- The table without members. -/
def empty (insensitive : Bool) : Table kind :=
  ⟨[], ∅, ∅, insensitive⟩

/-- Files keys under a position, unless they are filed already. -/
def fileNames (position : Nat) (keys : List String) (byName : Std.HashMap String Nat) :
    Std.HashMap String Nat :=
  keys.foldl (fun map key => map.insertIfNew key position) byName

/-- Files a raw scalar under a position, unless it is filed already. -/
def fileRaw (position : Nat) (raw : Scalar kind) (byRaw : Std.HashMap Text.Bytes Nat) :
    Std.HashMap Text.Bytes Nat :=
  match raw.key? with
  | some key => byRaw.insertIfNew key position
  | none => byRaw

/-- Adds a member behind the others. -/
def add (table : Table kind) (member : Member kind) : Table kind :=
  let position := table.members.length
  { table with
    members := table.members ++ [member]
    byName := fileNames position (member.keys table.insensitive) table.byName
    byRaw := fileRaw position member.raw table.byRaw }

/-- The table of a list of members. -/
def ofMembers (insensitive : Bool) (members : List (Member kind)) : Table kind :=
  members.foldl add (empty insensitive)

/-- The position filed under a name. A table that ignores case also tries the
lower case of the name. -/
def positionOfName? (table : Table kind) (name : String) : Option Nat :=
  match table.byName[name]? with
  | some position => some position
  | none => if table.insensitive then table.byName[lowercase name]? else none

/-- The position filed under a raw scalar. What has no key is looked for among
the members themselves. -/
def positionOfRaw? (table : Table kind) (raw : Scalar kind) : Option Nat :=
  match raw.key? with
  | some key => table.byRaw[key]?
  | none => table.members.findIdx? fun member => member.raw.equal raw

/-- The member that answers to a name. -/
def findByName? (table : Table kind) (name : String) : Option (Member kind) :=
  (table.positionOfName? name).bind fun position => table.members[position]?

/-- The member with a raw scalar. -/
def findByRaw? (table : Table kind) (raw : Scalar kind) : Option (Member kind) :=
  (table.positionOfRaw? raw).bind fun position => table.members[position]?

/-- The canonical name filed for a raw scalar. -/
def nameOf? (table : Table kind) (raw : Scalar kind) : Option String :=
  (table.findByRaw? raw).map (·.name)

/-- The raw scalar belongs to a member that is not marked invalid. -/
def isValid (table : Table kind) (raw : Scalar kind) : Bool :=
  (table.findByRaw? raw).any (·.isValid)

/-- The number of members. -/
def size (table : Table kind) : Nat :=
  table.members.length

end Table

/-! ## Linear search

The same questions answered by walking through the members. -/

section LinearSearch

variable {kind : Kind}

/-- The first member whose raw scalar equals the given one. -/
def scanForRaw? (members : List (Member kind)) (raw : Scalar kind) : Option (Member kind) :=
  members.find? fun member => member.raw.equal raw

/-- The first member filed under a key. -/
def scanForKey? (insensitive : Bool) (members : List (Member kind)) (key : String) :
    Option (Member kind) :=
  members.find? fun member => (member.keys insensitive).contains key

/-- The first member that answers to a name; where case is ignored, the first
that answers to its lower case if there is none. -/
def scanForName? (insensitive : Bool) (members : List (Member kind)) (name : String) :
    Option (Member kind) :=
  match scanForKey? insensitive members name with
  | some member => some member
  | none => if insensitive then scanForKey? insensitive members (lowercase name) else none

end LinearSearch

end NamedConstants
