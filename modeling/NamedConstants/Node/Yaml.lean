import NamedConstants.Node.Basic

/-!
# YAML nodes

A YAML value is a scalar, a sequence, a mapping with keys of any shape, or any
of these with a tag. A tag is ignored where a scalar or a sequence is asked for,
and refused where anything would do.
-/

set_option autoImplicit false

namespace NamedConstants

/-- A YAML value. Integers have 64 bits, signed or unsigned. -/
inductive Yaml
  | null
  | bool (value : Bool)
  | integer (value : Int)
  | float (value : Double)
  | string (value : String)
  | seq (items : List Yaml)
  | map (entries : List (Yaml × Yaml))
  | tagged (tag : String) (inner : Yaml)

namespace Yaml

/-- The value without its tags. -/
def untag : Yaml → Yaml
  | .tagged _ inner => inner.untag
  | value => value

mutual

/-- The neutral node of a value; none if there is a tag anywhere. -/
def toNode? : Yaml → Option Node
  | .null => some .unit
  | .bool value => some (.bool value)
  | .integer value => some (Node.ofJson.ofInteger value)
  | .float x => some (@Node.float .double x)
  | .string text => some (.string text)
  | .seq items => (itemNodes? items).map .seq
  | .map entries => (entryNodes? entries).map Node.ofEntries
  | .tagged _ _ => none

/-- The nodes of the items of a sequence. -/
def itemNodes? : List Yaml → Option (List Node)
  | [] => some []
  | item :: rest =>
    match item.toNode?, itemNodes? rest with
    | some node, some nodes => some (node :: nodes)
    | _, _ => none

/-- The nodes of the entries of a mapping. -/
def entryNodes? : List (Yaml × Yaml) → Option (List (Node × Node))
  | [] => some []
  | (key, item) :: rest =>
    match key.toNode?, item.toNode?, entryNodes? rest with
    | some key, some node, some nodes => some ((key, node) :: nodes)
    | _, _, _ => none

end

/-- The text of a key, if the key is text. -/
def key? (key : Yaml) : Option String :=
  match key.untag with
  | .string text => some text
  | _ => none

mutual

/-- The JSON form of a value; none if there is a tag on a value or a key that is
no text. -/
def toJson? : Yaml → Option Json
  | .null => some .null
  | .bool value => some (.bool value)
  | .integer value => some (.integer value)
  | .float x => some (Json.ofDouble x)
  | .string text => some (.string text)
  | .seq items => (itemsJson? items).map .array
  | .map entries => (entriesJson? entries).map Json.ofMembers
  | .tagged _ _ => none

/-- The JSON forms of the items of a sequence. -/
def itemsJson? : List Yaml → Option (List Json)
  | [] => some []
  | item :: rest =>
    match item.toJson?, itemsJson? rest with
    | some value, some values => some (value :: values)
    | _, _ => none

/-- The members of the entries of a mapping. -/
def entriesJson? : List (Yaml × Yaml) → Option (List (String × Json))
  | [] => some []
  | (key, item) :: rest =>
    match key.key?, item.toJson?, entriesJson? rest with
    | some key, some value, some values => some ((key, value) :: values)
    | _, _, _ => none

end

end Yaml

end NamedConstants
