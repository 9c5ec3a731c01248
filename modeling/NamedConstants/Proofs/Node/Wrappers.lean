import NamedConstants.Node.Document
import NamedConstants.Proofs.Result
import NamedConstants.Proofs.Text.Utf8
import NamedConstants.Proofs.Text.ValidUtf8

/-!
# Wrapped nodes

The value of a node is that of the node in its wrappers (`toValue_wrapped`), but a wrapped node
does not have the shape of any kind: it is converted where the node itself is decoded directly. For
integers, floats of 64 bits, truth values, strings and bytes this makes no difference, since what
is decoded directly is what the conversion gives, too (`convertTo_of_decodeAs?`). So wrappers are
transparent for these kinds, in failures as in results, and for no other kind
(`isUniform_iff_transparent`).
-/

set_option autoImplicit false

namespace NamedConstants

/-- The two wrappers of a node. -/
inductive Node.Wrapper
  | some
  | newtype
  deriving DecidableEq, Repr

/-- The node in a wrapper. -/
def Node.Wrapper.wrap : Wrapper → Node → Node
  | some, node => .some node
  | newtype, node => .newtype node

/-- The node in any number of wrappers, the first of them outermost. -/
def Node.wrapped (node : Node) (wrappers : List Wrapper) : Node :=
  wrappers.foldr Wrapper.wrap node

/-- The kinds into which a node is decoded as it is converted. -/
inductive Kind.IsUniform : Kind → Prop
  | integer (kind : IntegerKind) : IsUniform (.integer kind)
  | double : IsUniform (.float .double)
  | bool : IsUniform .bool
  | string : IsUniform .string
  | bytes : IsUniform .bytes

namespace Node

/-! ## The value in the wrappers -/

/-- One more wrapper does not change the value. -/
theorem toValue_wrap (wrapper : Wrapper) (node : Node) :
    (wrapper.wrap node).toValue = node.toValue := by
  cases wrapper with
  | some => rw [Wrapper.wrap, toValue]
  | newtype => rw [Wrapper.wrap, toValue]

/-- **Wrappers do not change the value of a node.** -/
theorem toValue_wrapped (node : Node) (wrappers : List Wrapper) :
    (node.wrapped wrappers).toValue = node.toValue := by
  induction wrappers with
  | nil => rfl
  | cons wrapper wrappers ih =>
      rw [wrapped, List.foldr_cons, toValue_wrap]
      exact ih

theorem convertTo_wrapped (node : Node) (wrappers : List Wrapper) (kind : Kind) :
    (node.wrapped wrappers).convertTo kind = node.convertTo kind := by
  rw [convertTo, toValue_wrapped, convertTo]

/-! ## What is decoded directly -/

/-- A list of nodes that are bytes is a JSON array of the same bytes. -/
theorem itemsJson?_of_bytes {items : List Node} {octets : Text.Bytes}
    (direct : items.mapM byte? = Option.some octets) :
    ∃ values, itemsJson? items = Option.some values ∧ Json.bytes? values = Option.some octets := by
  induction items generalizing octets with
  | nil =>
      rw [List.mapM_nil] at direct
      cases direct
      exact ⟨[], by rw [itemsJson?], rfl⟩
  | cons item rest ih =>
      rw [List.mapM_cons, Option.bind_eq_bind, Option.bind_eq_some_iff] at direct
      obtain ⟨byte, first, direct⟩ := direct
      rw [Option.bind_eq_bind, Option.bind_eq_some_iff] at direct
      obtain ⟨bytes, others, whole⟩ := direct
      cases whole
      obtain ⟨values, written, read⟩ := ih others
      cases item with
      | integer value =>
          have same : Json.byte? (.integer value.value) = Option.some byte := first
          refine ⟨.integer value.value :: values, ?_, ?_⟩
          · rw [itemsJson?, toJson?, written]
          · rw [Json.bytes?] at read ⊢
            rw [List.mapM_cons, same, read]
            rfl
      | _ => cases first

/-- A node that is a text is converted into this text. -/
theorem convertTo_string_of_text? {node : Node} {text : String}
    (own : node.text? = Option.some text) : node.convertTo .string = .ok (.string text) := by
  have verbatim (text : String) :
      convert (.scalar (.string text)) .string = .ok (.string text) := by
    have shown : convert (.scalar (.string text)) .string =
        .ok (.string (String.ofList text.toList)) := rfl
    rw [shown, String.ofList_toList]
  cases node with
  | string text =>
      cases own
      exact verbatim text
  | char c =>
      cases own
      exact verbatim (String.singleton c)
  | bytes octets =>
      obtain rfl := Text.stringOf_eq_ok_iff.mp (toOption_eq_some_iff.mp own)
      have shown : (Node.bytes (Text.bytesOf text)).convertTo .string =
          .ok (.string (Text.lossyString (Text.bytesOf text))) := rfl
      rw [shown, Text.bytesOf, Text.lossyString_encode, String.ofList_toList]
  | _ => cases own

/-- **What is decoded directly into a uniform kind is what the conversion gives.** -/
theorem convertTo_of_decodeAs? {kind : Kind} (uniform : kind.IsUniform) {node : Node}
    {scalar : Scalar kind} (direct : node.decodeAs? kind = Option.some scalar) :
    node.convertTo kind = .ok scalar := by
  cases uniform with
  | integer kind =>
      cases node with
      | integer value =>
          have fits : Scalar.ofInt? kind value.value = Option.some scalar := direct
          have converted : (Node.integer value).convertTo (.integer kind) =
            Scalar.ofInt kind value.value := rfl
          rw [converted, Scalar.ofInt, fits]
      | _ => cases direct
  | double =>
      cases node with
      | integer value =>
          cases direct
          rfl
      | float x =>
          cases direct
          rfl
      | _ => cases direct
  | bool =>
      cases node with
      | bool value =>
          cases direct
          rfl
      | _ => cases direct
  | string =>
      cases node with
      | string text =>
          cases direct
          exact convertTo_string_of_text? rfl
      | char c =>
          cases direct
          exact convertTo_string_of_text? rfl
      | bytes octets =>
          have read : (Text.stringOf octets).toOption.map Scalar.string = Option.some scalar := direct
          obtain ⟨text, decoded, rfl⟩ := Option.map_eq_some_iff.mp read
          exact convertTo_string_of_text? decoded
      | _ => cases direct
  | bytes =>
      cases node with
      | seq items =>
          have read : (items.mapM byte?).map Scalar.bytes = Option.some scalar := direct
          obtain ⟨octets, decoded, rfl⟩ := Option.map_eq_some_iff.mp read
          obtain ⟨values, written, bytes⟩ := itemsJson?_of_bytes decoded
          have value : (Node.seq items).toValue = .ok (.scalar (.structured (.array values))) := by
            simp only [toValue, toJson?, written, Option.map_some]
          have converted : convert (.scalar (.structured (.array values))) .bytes =
              .ok (.bytes octets) := by
            rw [convert, convertPresent, bytes]
            rfl
          rw [convertTo, value]
          exact converted
      | _ => cases direct

end Node

/-! ## Wrapped documents -/

namespace Document

/-- A node is decoded into a uniform kind as it is converted, with the failures of the
conversion. -/
theorem toScalar_eq_convertTo {kind : Kind} (uniform : kind.IsUniform) (node : Node) :
    (Document.node node).toScalar kind =
      (node.convertTo kind).describe "failed to convert node value to target type" := by
  have whole : (Document.node node).decodeAs? kind = node.decodeAs? kind := rfl
  rw [toScalar, whole]
  cases direct : node.decodeAs? kind with
  | none => rfl
  | some scalar =>
      rw [Node.convertTo_of_decodeAs? uniform direct]
      rfl

/-- **Wrappers are transparent for the uniform kinds**: a node in any number of them gives the same
result or the same failure as the node itself. -/
theorem toScalar_wrapped {kind : Kind} (uniform : kind.IsUniform) (node : Node)
    (wrappers : List Node.Wrapper) :
    (Document.node (node.wrapped wrappers)).toScalar kind = (Document.node node).toScalar kind := by
  rw [toScalar_eq_convertTo uniform, toScalar_eq_convertTo uniform, Node.convertTo_wrapped]

/-- A wrapped node that fails where the node itself is decoded. -/
theorem not_transparent_of_failure {kind : Kind} {node : Node} {wrapper : Node.Wrapper}
    (fails : ((Document.node (node.wrapped [wrapper])).toScalar kind).toOption.isSome = false)
    (decoded : ((Document.node node).toScalar kind).toOption.isSome = true) :
    ¬∀ (node : Node) (wrappers : List Node.Wrapper),
      (Document.node (node.wrapped wrappers)).toScalar kind =
        (Document.node node).toScalar kind := by
  intro transparent
  rw [transparent, decoded] at fails
  cases fails

end Document

/-- **The kinds for which wrappers are transparent are the integers, the floats of 64 bits, truth
values, strings and bytes.** A float of 64 bits that exceeds 32 bits, a year of five digits and
nothing at all are decoded into the other kinds by themselves, but not in a wrapper. -/
theorem isUniform_iff_transparent (kind : Kind) :
    kind.IsUniform ↔ ∀ (node : Node) (wrappers : List Node.Wrapper),
      (Document.node (node.wrapped wrappers)).toScalar kind =
        (Document.node node).toScalar kind := by
  constructor
  · intro uniform
    exact Document.toScalar_wrapped uniform
  · intro transparent
    cases kind with
    | integer kind => exact .integer kind
    | float precision =>
        cases precision with
        | single =>
            refine absurd transparent (@Document.not_transparent_of_failure _
              (@Node.float .double (.ofBits 0x7e37e43c8800759c)) .some ?_ ?_)
            · decide +kernel
            · rfl
        | double => exact .double
    | bool => exact .bool
    | string => exact .string
    | bytes => exact .bytes
    | timestamp =>
        refine absurd transparent (@Document.not_transparent_of_failure _
          (.string "+10000-01-01T00:00:00Z") .some ?_ ?_)
        · decide +kernel
        · decide +kernel
    | structured =>
        exact absurd transparent (@Document.not_transparent_of_failure _ .unit .newtype rfl rfl)

end NamedConstants
