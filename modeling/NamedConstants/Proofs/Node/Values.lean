import NamedConstants.Node.Basic
import NamedConstants.Proofs.BinaryFloat.Conversion
import NamedConstants.Proofs.Json.Regular

/-!
# Values in nodes

A value goes into a node and comes back (`values_through_nodes`). For integers, floats, truth
values, strings and bytes there is a node of the same sort, and the other way round such a node is
the node of the value it holds. An array or an object becomes a tree of nodes: numbers of two
classes, strings as keys, and the node of nothing for null. Each of these is told apart again, so
the tree has the JSON form it came from (`toJson?_ofJson`), and its entries stand in the order of
nodes as the members stood in the order of strings (`ofJson_object`). A timestamp leaves as
its text, and null has no node.
-/

set_option autoImplicit false

namespace NamedConstants

namespace Node

/-! ## Integers -/

/-- An integer of 64 bits without a sign keeps this class. -/
theorem ofInteger_of_unsigned {value : Int} (fits : IntegerKind.uint64.Contains value) :
    ofJson.ofInteger value = .integer ⟨value, fits⟩ := by
  rw [ofJson.ofInteger, Scalar.ofInt?, dif_pos fits]
  rfl

/-- Any other integer has a sign. -/
theorem ofInteger_of_signed {value : Int} (negative : ¬IntegerKind.uint64.Contains value)
    (fits : IntegerKind.int64.Contains value) :
    ofJson.ofInteger value = .integer ⟨value, fits⟩ := by
  rw [ofJson.ofInteger, Scalar.ofInt?, dif_neg negative]
  dsimp only
  rw [Scalar.ofInt?, dif_pos fits]
  rfl

theorem toJson?_ofInteger {value : Int} (fits : Json.FitsWord value) :
    (ofJson.ofInteger value).toJson? = Option.some (.integer value) := by
  by_cases unsigned : IntegerKind.uint64.Contains value
  · rw [ofInteger_of_unsigned unsigned, toJson?]
  · rw [ofInteger_of_signed unsigned (fits.resolve_left unsigned), toJson?]

/-! ## Trees -/

theorem itemsJson?_ofElements {elements : List Json}
    (each : ∀ value ∈ elements, (ofJson value).toJson? = Option.some value) :
    itemsJson? (ofElements elements) = Option.some elements := by
  induction elements with
  | nil => rw [ofElements, itemsJson?]
  | cons value rest ih =>
      obtain ⟨first, others⟩ := List.forall_mem_cons.mp each
      rw [ofElements, itemsJson?, first, ih others]

theorem entriesJson?_ofMembers {members : Json.Members}
    (each : ∀ member ∈ members, (ofJson member.2).toJson? = Option.some member.2) :
    entriesJson? (ofMembers members) = Option.some members := by
  induction members with
  | nil => rw [ofMembers, entriesJson?]
  | cons member rest ih =>
      obtain ⟨first, others⟩ := List.forall_mem_cons.mp each
      rw [ofMembers, entriesJson?, key?, first, ih others]

/-- A finite float of 64 bits is a JSON number. -/
theorem toJson?_float {x : Double} (finite : x.isFinite = true) :
    (@Node.float .double x).toJson? = Option.some (.float x) := by
  have number : x.isNaN = false := BinaryFloat.isNaN_eq_false (of_decide_eq_true finite)
  have form : (@Node.float .double x).toJson? = Option.some (Json.ofDouble x.cast) := rfl
  rw [form, BinaryFloat.cast_self (by decide) number, Json.ofDouble, if_pos finite]

/-- **The node of a regular value has this JSON form.** -/
theorem toJson?_ofJson {value : Json} (regular : value.IsRegular) :
    (ofJson value).toJson? = Option.some value := by
  induction regular with
  | null => rw [ofJson, toJson?]
  | bool value => rw [ofJson, toJson?]
  | integer fits => rw [ofJson, toJson?_ofInteger fits]
  | float finite => rw [ofJson, toJson?_float finite]
  | string value => rw [ofJson, toJson?]
  | array _ ih => rw [ofJson, toJson?, itemsJson?_ofElements ih, Option.map_some]
  | object sorted _ ih =>
      rw [ofJson, toJson?, entriesJson?_ofMembers ih, Option.map_some,
        Json.ofMembers_of_isSorted sorted]

/-! ## What nodes hold is regular -/

theorem isRegular_ofDouble (x : Double) : (Json.ofDouble x).IsRegular := by
  rw [Json.ofDouble]
  split
  case isTrue finite => exact .float finite
  case isFalse => exact .null

mutual

/-- **The JSON form of a node is regular.** -/
theorem isRegular_of_toJson? :
    (node : Node) → {value : Json} → node.toJson? = Option.some value → value.IsRegular
  | .unit, _, form => by
    cases form
    exact .null
  | .none, _, form => by
    cases form
    exact .null
  | .some inner, _, form => isRegular_of_toJson? inner form
  | .newtype inner, _, form => isRegular_of_toJson? inner form
  | .bool value, _, form => by
    cases form
    exact .bool value
  | .integer value, _, form => by
    cases form
    exact .integer (Json.fitsWord_of_contains value.contains)
  | .float x, _, form => by
    cases form
    exact isRegular_ofDouble x.cast
  | .char c, _, form => by
    cases form
    exact .string _
  | .string text, _, form => by
    cases form
    exact .string text
  | .bytes octets, _, form => by
    cases form
    refine .array fun value member => ?_
    obtain ⟨byte, -, rfl⟩ := List.mem_map.mp member
    have small : IntegerKind.uint8.Contains byte.toNat :=
      ⟨Int.natCast_nonneg _, Int.ofNat_le.mpr (Nat.le_of_lt_succ byte.toNat_lt)⟩
    exact .integer (Json.fitsWord_of_contains small)
  | .seq items, _, form => by
    rw [toJson?, Option.map_eq_some_iff] at form
    obtain ⟨elements, forms, rfl⟩ := form
    exact .array (isRegular_of_itemsJson? items forms)
  | .map entries, _, form => by
    rw [toJson?, Option.map_eq_some_iff] at form
    obtain ⟨members, forms, rfl⟩ := form
    exact Json.isRegularWith_ofMembers (isRegular_of_entriesJson? entries forms)

theorem isRegular_of_itemsJson? : (items : List Node) → {elements : List Json} →
    itemsJson? items = Option.some elements → ∀ value ∈ elements, value.IsRegular
  | [], _, forms => by
    cases forms
    exact List.forall_mem_nil _
  | item :: rest, _, forms => by
    rw [itemsJson?] at forms
    split at forms
    case h_1 value values first others =>
      cases forms
      exact List.forall_mem_cons.mpr
        ⟨isRegular_of_toJson? item first, isRegular_of_itemsJson? rest others⟩
    case h_2 => cases forms

theorem isRegular_of_entriesJson? : (entries : List (Node × Node)) → {members : Json.Members} →
    entriesJson? entries = Option.some members → ∀ member ∈ members, member.2.IsRegular
  | [], _, forms => by
    cases forms
    exact List.forall_mem_nil _
  | (key, item) :: rest, _, forms => by
    rw [entriesJson?] at forms
    split at forms
    case h_1 text value values written first others =>
      cases forms
      exact List.forall_mem_cons.mpr
        ⟨isRegular_of_toJson? item first, isRegular_of_entriesJson? rest others⟩
    case h_2 => cases forms

end

/-! ## The order of entries -/

theorem order_string (text other : String) :
    order (.string text) (.string other) = compareOfLessAndEq text other := by
  rw [order]
  rfl

/-- An entry with a string as its key is written where the member is written. -/
theorem insertEntry_ofMembers (key : String) (value : Json) (members : Json.Members) :
    insertEntry (.string key) (ofJson value) (ofMembers members) =
      ofMembers (members.insert key value) := by
  induction members with
  | nil => rfl
  | cons member rest ih =>
      rw [ofMembers, insertEntry, order_string, compareOfLessAndEq, Json.Members.insert]
      by_cases below : key < member.1
      · rw [if_pos below, if_pos below]
        rfl
      · rw [if_neg below, if_neg below]
        by_cases same : key = member.1
        · rw [if_pos same, if_pos same, same]
          rfl
        · rw [if_neg same, if_neg same, ofMembers]
          exact congrArg _ ih

theorem foldl_insertEntry_ofMembers (done members : Json.Members) :
    (ofMembers members).foldl (fun sorted entry => insertEntry entry.1 entry.2 sorted)
        (ofMembers done) =
      ofMembers (members.foldl
        (fun sorted member => Json.Members.insert member.1 member.2 sorted) done) := by
  induction members generalizing done with
  | nil => rfl
  | cons member rest ih =>
      rw [ofMembers, List.foldl_cons, List.foldl_cons, insertEntry_ofMembers, ih]

/-- **The map that the entries of members make is the node of the object that the members make.** -/
theorem ofEntries_ofMembers (members : Json.Members) :
    ofEntries (ofMembers members) = ofJson (Json.ofMembers members) := by
  rw [ofEntries, Json.ofMembers, ofJson]
  exact congrArg Node.map (foldl_insertEntry_ofMembers [] members)

/-- The node of a regular object is the map that its entries make in any case. -/
theorem ofJson_object {members : Json.Members} (sorted : members.IsSorted) :
    ofJson (.object members) = ofEntries (ofMembers members) := by
  rw [ofEntries_ofMembers, Json.ofMembers_of_isSorted sorted]

end Node

/-! ## Values -/

/-- A scalar that its node gives back: it is no timestamp, and if it is structured it is an array or
an object. -/
inductive Scalar.IsHeld : {kind : Kind} → Scalar kind → Prop
  | integer {kind : IntegerKind} (value : BoundedInt kind) : IsHeld (.integer value)
  | float {precision : FloatKind} (x : BinaryFloat precision.format) : IsHeld (.float x)
  | bool (value : Bool) : IsHeld (.bool value)
  | string (text : String) : IsHeld (.string text)
  | bytes (octets : Text.Bytes) : IsHeld (.bytes octets)
  | array {elements : List Json} (regular : (Json.array elements).IsRegular) :
      IsHeld (.structured (.array elements))
  | object {members : Json.Members} (regular : (Json.object members).IsRegular) :
      IsHeld (.structured (.object members))

namespace Node

/-- A node that is an integer, a float, a truth value, a string or bytes. -/
inductive IsScalar : Node → Prop
  | integer {kind : IntegerKind} (value : BoundedInt kind) : IsScalar (.integer value)
  | float {precision : FloatKind} (x : BinaryFloat precision.format) : IsScalar (.float x)
  | bool (value : Bool) : IsScalar (.bool value)
  | string (text : String) : IsScalar (.string text)
  | bytes (octets : Text.Bytes) : IsScalar (.bytes octets)

theorem toValue_ofScalar {kind : Kind} {scalar : Scalar kind} (held : scalar.IsHeld) :
    (ofScalar scalar).toValue = .ok (.scalar scalar) := by
  cases held with
  | integer value => rw [ofScalar, toValue]
  | float x => rw [ofScalar, toValue]
  | bool value => rw [ofScalar, toValue]
  | string text => rw [ofScalar, toValue]
  | bytes octets => rw [ofScalar, toValue]
  | array regular =>
      have form := toJson?_ofJson regular
      rw [ofJson] at form
      simp only [ofScalar, ofJson, toValue, form]
  | object regular =>
      have form := toJson?_ofJson regular
      rw [ofJson] at form
      simp only [ofScalar, ofJson, toValue, form]

theorem toValue_timestamp (t : Timestamp) :
    (ofScalar (.timestamp t)).toValue = .ok (.scalar (.string (Scalar.timestamp t).toText)) := by
  rw [ofScalar, toValue, Scalar.toText, Scalar.writeText]

/-- **A node holds nothing but null and scalars that their nodes give back.** -/
theorem isHeld_of_toValue : (node : Node) → {kind : Kind} → {scalar : Scalar kind} →
    node.toValue = .ok (.scalar scalar) → scalar.IsHeld
  | .unit, _, _, holds => by cases holds
  | .none, _, _, holds => by cases holds
  | .some inner, _, _, holds => isHeld_of_toValue inner holds
  | .newtype inner, _, _, holds => isHeld_of_toValue inner holds
  | .bool value, _, _, holds => by
    cases holds
    exact .bool value
  | .integer value, _, _, holds => by
    cases holds
    exact .integer value
  | .float x, _, _, holds => by
    cases holds
    exact .float x
  | .char c, _, _, holds => by
    cases holds
    exact .string _
  | .string text, _, _, holds => by
    cases holds
    exact .string text
  | .bytes octets, _, _, holds => by
    cases holds
    exact .bytes octets
  | .seq items, _, _, holds => by
    simp only [toValue] at holds
    split at holds
    case h_1 value form =>
      cases holds
      obtain ⟨elements, forms, rfl⟩ := Option.map_eq_some_iff.mp form
      exact .array (.array (isRegular_of_itemsJson? items forms))
    case h_2 => cases holds
  | .map entries, _, _, holds => by
    simp only [toValue] at holds
    split at holds
    case h_1 value form =>
      cases holds
      obtain ⟨members, forms, rfl⟩ := Option.map_eq_some_iff.mp form
      exact .object (Json.isRegularWith_ofMembers (isRegular_of_entriesJson? entries forms))
    case h_2 => cases holds

/-- What a node holds is what its own node holds, too. -/
theorem toValue_ofScalar_of_toValue {node : Node} {kind : Kind} {scalar : Scalar kind}
    (holds : node.toValue = .ok (.scalar scalar)) :
    (ofScalar scalar).toValue = .ok (.scalar scalar) :=
  toValue_ofScalar (isHeld_of_toValue node holds)

/-- Null is the only value without a node. -/
theorem ofValue_eq_error_iff {value : RawValue} {failure : Failure} :
    ofValue value = .error failure ↔ value = .null ∧ failure = .nilValue := by
  cases value with
  | null =>
      rw [ofValue, Except.error.injEq]
      exact ⟨fun same => ⟨rfl, same.symm⟩, fun refused => refused.2.symm⟩
  | scalar value =>
      constructor
      · intro refused
        cases refused
      · rintro ⟨same, -⟩
        cases same

/-- A scalar node holds the value whose node it is. -/
theorem exists_scalar_of_isScalar {node : Node} (single : node.IsScalar) :
    ∃ (kind : Kind) (scalar : Scalar kind), node.toValue = .ok (.scalar scalar) ∧
      ofScalar scalar = node := by
  cases single with
  | integer value => exact ⟨_, .integer value, by rw [toValue], rfl⟩
  | float x => exact ⟨_, .float x, by rw [toValue], rfl⟩
  | bool value => exact ⟨_, .bool value, by rw [toValue], rfl⟩
  | string text => exact ⟨_, .string text, by rw [toValue], rfl⟩
  | bytes octets => exact ⟨_, .bytes octets, by rw [toValue], rfl⟩

/-- **Values survive nodes.** What is no timestamp comes back as it was, arrays and objects of any
depth included; a timestamp comes back as its text; null alone is refused; and a scalar node comes
back from the value it holds. -/
theorem values_through_nodes :
    (∀ {kind : Kind} {scalar : Scalar kind}, scalar.IsHeld →
        (ofValue (.scalar scalar) >>= toValue) = .ok (.scalar scalar)) ∧
      (∀ t : Timestamp, (ofValue (.scalar (.timestamp t)) >>= toValue) =
        .ok (.scalar (.string (Scalar.timestamp t).toText))) ∧
      (∀ (value : RawValue) (failure : Failure),
        ofValue value = .error failure ↔ value = .null ∧ failure = .nilValue) ∧
      ∀ node : Node, node.IsScalar → (node.toValue >>= ofValue) = .ok node := by
  refine ⟨toValue_ofScalar, toValue_timestamp, fun _ _ => ofValue_eq_error_iff, ?_⟩
  intro node single
  obtain ⟨kind, scalar, holds, made⟩ := exists_scalar_of_isScalar single
  rw [holds]
  exact congrArg Except.ok made

/-- An object with an array in it, null, and numbers of three classes. -/
def mixed : Json :=
  .object [("", .array [.null, .integer (-1), .float (.ofBits 0x7fefffffffffffff)]),
    ("\x01", .integer 18446744073709551615)]

theorem isRegular_mixed : mixed.IsRegular :=
  .object (by decide)
    (List.forall_mem_cons.mpr ⟨.array (List.forall_mem_cons.mpr ⟨.null,
      List.forall_mem_cons.mpr ⟨.integer (by decide),
        List.forall_mem_singleton.mpr (.float (by decide))⟩⟩),
      List.forall_mem_singleton.mpr (.integer (by decide))⟩)

theorem values_through_nodes_mixed :
    (ofValue (.scalar (.structured mixed)) >>= toValue) = .ok (.scalar (.structured mixed)) ∧
      ((Node.string "").toValue >>= ofValue) = .ok (.string "") :=
  ⟨values_through_nodes.1 (.object isRegular_mixed), values_through_nodes.2.2.2 _ (.string "")⟩

end Node

end NamedConstants
