import NamedConstants.Node.Yaml
import NamedConstants.Scalar.Binary

/-!
# Documents

A document is a node of one of three formats. It decodes into a kind directly
when the node has the shape of that kind; otherwise it is read as a neutral node
and converted, and a failure of either step says which step it was.
-/

set_option autoImplicit false

namespace NamedConstants

/-- A node of one of the formats that decode. -/
inductive Document
  | node (value : Node)
  | json (value : Json)
  | yaml (value : Yaml)

/-- The integer as a scalar of the kind, or the number of an integer kind as a
float. -/
def Scalar.ofIntegerNode? (value : Int) : (kind : Kind) → Option (Scalar kind)
  | .integer kind => Scalar.ofInt? kind value
  | .float _ => some (.float (.ofInt value))
  | _ => none

/-- A float as a scalar of a float kind: it is rounded, also to infinity. -/
def Scalar.ofFloatNode? {format : BinaryFormat} (x : BinaryFloat format) :
    (kind : Kind) → Option (Scalar kind)
  | .float _ => some (.float x.cast)
  | _ => none

/-- A text as a string or a timestamp. -/
def Scalar.ofTextNode? (text : String) : (kind : Kind) → Option (Scalar kind)
  | .string => some (.string text)
  | .timestamp => (Timestamp.ofTextTolerant text.toList).toOption.map .timestamp
  | _ => none

/-- A truth value as a truth value. -/
def Scalar.ofBoolNode? (value : Bool) : (kind : Kind) → Option (Scalar kind)
  | .bool => some (.bool value)
  | _ => none

/-- The byte that an integer is. -/
def byteOfInt? (value : Int) : Option UInt8 :=
  if 0 ≤ value ∧ value ≤ 255 then some value.toNat.toUInt8 else none

namespace Node

/-- The text of a node that is a text, a character or the bytes of a text. -/
def text? : Node → Option String
  | .string text => Option.some text
  | .char c => Option.some (String.singleton c)
  | .bytes octets => (Text.stringOf octets).toOption
  | _ => Option.none

/-- The byte that an integer node is. -/
def byte? : Node → Option UInt8
  | .integer value => byteOfInt? value.value
  | _ => Option.none

/-- The first key of a map must be a text or a character. -/
def startsWithText : List (Node × Node) → Bool
  | [] => true
  | (.string _, _) :: _ => true
  | (.char _, _) :: _ => true
  | _ => false

mutual

/-- The JSON value that a node is; wrappers of the second sort and bytes are
none. -/
def directJson? : Node → Option Json
  | .unit => Option.some .null
  | .none => Option.some .null
  | .some inner => inner.directJson?
  | .newtype _ => Option.none
  | .bool value => Option.some (.bool value)
  | .integer value => Option.some (.integer value.value)
  | .float x => Option.some (floatJson x)
  | .char c => Option.some (.string (String.singleton c))
  | .string text => Option.some (.string text)
  | .bytes _ => Option.none
  | .seq items => (directItems? items).map .array
  | .map entries =>
    if startsWithText entries then (directEntries? entries).map Json.ofMembers else Option.none

/-- The JSON values that the items of a list are. -/
def directItems? : List Node → Option (List Json)
  | [] => Option.some []
  | item :: rest =>
    match item.directJson?, directItems? rest with
    | Option.some value, Option.some values => Option.some (value :: values)
    | _, _ => Option.none

/-- The members that the entries of a map are. -/
def directEntries? : List (Node × Node) → Option (List (String × Json))
  | [] => Option.some []
  | (key, item) :: rest =>
    match key.text?, item.directJson?, directEntries? rest with
    | Option.some key, Option.some value, Option.some values =>
      Option.some ((key, value) :: values)
    | _, _, _ => Option.none

end

/-- Decodes a node that has the shape of the kind. -/
def decodeAs? (node : Node) : (kind : Kind) → Option (Scalar kind)
  | .structured => node.directJson?.map .structured
  | .bytes =>
    match node with
    | .seq items => (items.mapM byte?).map .bytes
    | _ => Option.none
  | kind =>
    match node with
    | .integer value => Scalar.ofIntegerNode? value.value kind
    | .float x => Scalar.ofFloatNode? x kind
    | .bool value => Scalar.ofBoolNode? value kind
    | .string text => Scalar.ofTextNode? text kind
    | .char c => Scalar.ofTextNode? (String.singleton c) kind
    | .bytes octets =>
      match kind with
      | .string => (Text.stringOf octets).toOption.map .string
      | _ => Option.none
    | _ => Option.none

end Node

/-- Decodes a JSON value that has the shape of the kind. -/
def Json.decodeAs? (value : Json) : (kind : Kind) → Option (Scalar kind)
  | .structured => some (.structured value)
  | .bytes =>
    match value with
    | .array elements => (Json.bytes? elements).map .bytes
    | _ => none
  | kind =>
    match value with
    | .integer value => Scalar.ofIntegerNode? value kind
    | .float x => Scalar.ofFloatNode? x kind
    | .bool value => Scalar.ofBoolNode? value kind
    | .string text => Scalar.ofTextNode? text kind
    | _ => none

namespace Yaml

/-- The byte that a number is. -/
def byte? (value : Yaml) : Option UInt8 :=
  match value.untag with
  | .integer value => byteOfInt? value
  | _ => none

/-- Decodes a YAML value that has the shape of the kind. Nothing counts as an
empty sequence. -/
def decodeAs? (value : Yaml) : (kind : Kind) → Option (Scalar kind)
  | .structured => value.toJson?.map .structured
  | .bytes =>
    match value.untag with
    | .seq items => (items.mapM byte?).map .bytes
    | .null => some (.bytes [])
    | _ => none
  | kind =>
    match value.untag with
    | .integer value => Scalar.ofIntegerNode? value kind
    | .float x => Scalar.ofFloatNode? x kind
    | .bool value => Scalar.ofBoolNode? value kind
    | .string text => Scalar.ofTextNode? text kind
    | _ => none

end Yaml

namespace Document

/-- Decodes a document that has the shape of the kind. -/
def decodeAs? : Document → (kind : Kind) → Option (Scalar kind)
  | node value, kind => value.decodeAs? kind
  | json value, kind => value.decodeAs? kind
  | yaml value, kind => value.decodeAs? kind

/-- The neutral node of a document. -/
def toNode? : Document → Option Node
  | node value => some value
  | json value => some (.ofJson value)
  | yaml value => value.toNode?

/-- Reads a document as a neutral node and converts it. -/
def fallback (document : Document) (kind : Kind) : Result (Scalar kind) :=
  match document.toNode? with
  | none => .error (.context "failed to decode node" (.node "a tag has no value"))
  | some neutral => (neutral.convertTo kind).describe "failed to convert node value to target type"

/-- Decodes a document into a kind, directly or by conversion. -/
def toScalar (document : Document) (kind : Kind) : Result (Scalar kind) :=
  match document.decodeAs? kind with
  | some scalar => .ok scalar
  | none => document.fallback kind

end Document

end NamedConstants
