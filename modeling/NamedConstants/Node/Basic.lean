import NamedConstants.Scalar.Conversion

/-!
# Structured nodes

A node is the neutral form between a document format and the scalars: scalars of
every width, characters, lists, maps with keys of any shape, and two wrappers.
The entries of a map are ordered by their keys. Keys of different shapes are
ordered by shape; floats as keys are equal when they are both not a number.
-/

set_option autoImplicit false

namespace NamedConstants

/-- A structured node. -/
inductive Node
  | unit
  | none
  | some (inner : Node)
  | newtype (inner : Node)
  | bool (value : Bool)
  | integer {kind : IntegerKind} (value : BoundedInt kind)
  | float {kind : FloatKind} (value : BinaryFloat kind.format)
  | char (value : Char)
  | string (value : String)
  | bytes (value : Text.Bytes)
  | seq (items : List Node)
  | map (entries : List (Node × Node))

namespace Node

/-! ## The order of keys -/

/-- The place of a width among the shapes. -/
def integerRank : IntegerKind → Nat
  | .uint8 => 1
  | .uint16 => 2
  | .uint32 => 3
  | .uint64 => 4
  | .int8 => 5
  | .int16 => 6
  | .int32 => 7
  | .int64 => 8

/-- The place of a node among the shapes. -/
def rank : Node → Nat
  | .bool _ => 0
  | @integer kind _ => integerRank kind
  | @float .single _ => 9
  | @float .double _ => 10
  | .char _ => 11
  | .string _ => 12
  | .unit => 13
  | .none => 14
  | .some _ => 14
  | .newtype _ => 15
  | .seq _ => 16
  | .map _ => 17
  | .bytes _ => 18

/-- The order of floats as keys: what is not a number comes last. -/
def compareFloats {format other : BinaryFormat} (x : BinaryFloat format) (y : BinaryFloat other) :
    Ordering :=
  if x.isNaN then (if y.isNaN then .eq else .gt)
  else if y.isNaN then .lt
  else compare x.toUnits y.toUnits

mutual

/-- The order of nodes of any shape. -/
def order : Node → Node → Ordering
  | .bool x, .bool y => compare x y
  | @integer kind x, @integer other y =>
    (compare (integerRank kind) (integerRank other)).then (compare x.value y.value)
  | @float .single x, @float .single y => compareFloats x y
  | @float .double x, @float .double y => compareFloats x y
  | .char x, .char y => compare x.toNat y.toNat
  | .string x, .string y => compare x y
  | .none, .none => .eq
  | .none, .some _ => .lt
  | .some _, .none => .gt
  | .some x, .some y => order x y
  | .newtype x, .newtype y => order x y
  | .bytes x, .bytes y => compare (x.map UInt8.toNat) (y.map UInt8.toNat)
  | .seq x, .seq y => orderItems x y
  | .map x, .map y => orderEntries x y
  | x, y => compare x.rank y.rank

/-- The lexicographic order of lists of nodes. -/
def orderItems : List Node → List Node → Ordering
  | [], [] => .eq
  | [], _ :: _ => .lt
  | _ :: _, [] => .gt
  | x :: xs, y :: ys => (order x y).then (orderItems xs ys)

/-- The lexicographic order of lists of entries. -/
def orderEntries : List (Node × Node) → List (Node × Node) → Ordering
  | [], [] => .eq
  | [], _ :: _ => .lt
  | _ :: _, [] => .gt
  | (k, v) :: xs, (l, w) :: ys =>
    ((order k l).then (order v w)).then (orderEntries xs ys)

end

/-- Writes an entry at the place of its key; a key that is there already keeps
its form. -/
def insertEntry (key value : Node) : List (Node × Node) → List (Node × Node)
  | [] => [(key, value)]
  | (other, old) :: rest =>
    match order key other with
    | .lt => (key, value) :: (other, old) :: rest
    | .eq => (other, value) :: rest
    | .gt => (other, old) :: insertEntry key value rest

/-- The map of a list of entries, read from left to right. -/
def ofEntries (entries : List (Node × Node)) : Node :=
  .map (entries.foldl (fun sorted entry => insertEntry entry.1 entry.2 sorted) [])

/-! ## Nodes as JSON -/

/-- The text of a float as the key of an object, if it has one. -/
def floatKey? {format : BinaryFormat} (x : BinaryFloat format) : Option String :=
  if x.isFinite then Option.some (String.ofList (Json.floatText x)) else Option.none

/-- The text of a node as the key of an object, if it has one. -/
def key? : Node → Option String
  | .string text => Option.some text
  | .char c => Option.some (String.singleton c)
  | .bool value => Option.some (if value then "true" else "false")
  | .integer value => Option.some (String.ofList (IntegerText.write value.value))
  | .float x => floatKey? x
  | .newtype inner => inner.key?
  | _ => Option.none

/-- A float as a JSON number, widened to 64 bits. -/
def floatJson {format : BinaryFormat} (x : BinaryFloat format) : Json :=
  Json.ofDouble x.cast

mutual

/-- The JSON form of a node; none if a key of a map has no text. -/
def toJson? : Node → Option Json
  | .unit => Option.some .null
  | .none => Option.some .null
  | .some inner => inner.toJson?
  | .newtype inner => inner.toJson?
  | .bool value => Option.some (.bool value)
  | .integer value => Option.some (.integer value.value)
  | .float x => Option.some (floatJson x)
  | .char c => Option.some (.string (String.singleton c))
  | .string text => Option.some (.string text)
  | .bytes octets => Option.some (.array (octets.map fun byte => .integer byte.toNat))
  | .seq items => (itemsJson? items).map .array
  | .map entries => (entriesJson? entries).map Json.ofMembers

/-- The JSON forms of a list of nodes. -/
def itemsJson? : List Node → Option (List Json)
  | [] => Option.some []
  | item :: rest =>
    match item.toJson?, itemsJson? rest with
    | Option.some value, Option.some values => Option.some (value :: values)
    | _, _ => Option.none

/-- The members of the entries of a map. -/
def entriesJson? : List (Node × Node) → Option (List (String × Json))
  | [] => Option.some []
  | (key, item) :: rest =>
    match key.key?, item.toJson?, entriesJson? rest with
    | Option.some key, Option.some value, Option.some values =>
      Option.some ((key, value) :: values)
    | _, _, _ => Option.none

end

/-- The JSON text of a node. A float keeps the digits of its own precision; a node
without a JSON form counts as null. -/
def writeJson : Node → List Char
  | .float x => if x.isFinite then Json.floatText x else Json.null.write
  | node => (node.toJson?.getD .null).write

mutual

/-- The node of a JSON value: integers are unsigned unless they are negative. -/
def ofJson : Json → Node
  | .null => .unit
  | .bool value => .bool value
  | .integer value => ofInteger value
  | .float x => @float .double x
  | .string text => .string text
  | .array elements => .seq (ofElements elements)
  | .object members => .map (ofMembers members)
where
  /-- The node of an integer of 64 bits. -/
  ofInteger (value : Int) : Node :=
    match Scalar.ofInt? .uint64 value with
    | Option.some (.integer n) => .integer n
    | Option.none =>
      match Scalar.ofInt? .int64 value with
      | Option.some (.integer n) => .integer n
      | Option.none => .unit

/-- The nodes of a list of JSON values. -/
def ofElements : List Json → List Node
  | [] => []
  | value :: rest => ofJson value :: ofElements rest

/-- The entries of the members of an object. -/
def ofMembers : List (String × Json) → List (Node × Node)
  | [] => []
  | (key, value) :: rest => (.string key, ofJson value) :: ofMembers rest

end

/-! ## Nodes and values -/

/-- The value a node holds. Wrappers are transparent, and what has no kind of
its own is structured. -/
def toValue : Node → Result RawValue
  | .unit => .ok .null
  | .none => .ok .null
  | .some inner => inner.toValue
  | .newtype inner => inner.toValue
  | .bool value => .ok (.scalar (.bool value))
  | .integer value => .ok (.scalar (.integer value))
  | .float x => .ok (.scalar (.float x))
  | .char c => .ok (.scalar (.string (String.singleton c)))
  | .string text => .ok (.scalar (.string text))
  | .bytes octets => .ok (.scalar (.bytes octets))
  | compound =>
    match compound.toJson? with
    | Option.some value => .ok (.scalar (.structured value))
    | Option.none => .error (.json "a key is no text")

/-- The node of a scalar, a scalar node of the same kind where there is one. -/
def ofScalar {kind : Kind} : Scalar kind → Node
  | .integer value => .integer value
  | .float x => .float x
  | .bool value => .bool value
  | .string text => .string text
  | .bytes octets => .bytes octets
  | .timestamp t => .string (String.ofList t.toText)
  | .structured value => ofJson value

/-- The node of a value; null has none. -/
def ofValue : RawValue → Result Node
  | .null => .error .nilValue
  | .scalar value => .ok (ofScalar value)

/-- Converts a node into a kind through the value it holds. -/
def convertTo (node : Node) (kind : Kind) : Result (Scalar kind) := do
  convert (← node.toValue) kind

end Node

end NamedConstants
