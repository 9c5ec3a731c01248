import NamedConstants.Proofs.Json.Reader
import NamedConstants.Proofs.Json.RoundTrip
import NamedConstants.Proofs.Text.Utf8
import NamedConstants.Scalar.Binary

/-!
# Structured scalars as text and as bytes

The text of a structured scalar is JSON, and its binary form is the bytes of this text, so both are
read alike (`ofBytes_toBytes_structured`). A value without floats comes back from either if no more
containers are open at once than the reader holds, and it is refused by both otherwise
(`structured_roundTrip`).
-/

set_option autoImplicit false

namespace NamedConstants.Scalar

/-- The bytes of a text are read as the text. -/
theorem ofBytes_encode {text : List Char} (written : text ≠ []) :
    ofBytes (Text.encode text) .structured = structuredOfText text := by
  have some : (Text.encode text).isEmpty = false := by
    obtain ⟨c, rest, rfl⟩ := List.exists_cons_of_ne_nil written
    obtain ⟨lead, more, bytes, -⟩ := Text.utf8Step_encodeChar c []
    rw [Text.encode_cons, bytes]
    rfl
  rw [ofBytes, some, jsonOfBytes, Text.decode_encode, structuredOfText]
  dsimp only
  cases Json.ofText? text <;> rfl

/-- **A structured scalar is read from its bytes as from its text.** -/
theorem ofBytes_toBytes_structured (value : Json) :
    ofBytes (Scalar.structured value).toBytes .structured =
      ofText (Scalar.structured value).toText .structured := by
  obtain ⟨c, rest, start, -⟩ := (Json.isValue_write value).exists_start
  have written : value.write ≠ [] := start ▸ List.cons_ne_nil c rest
  rw [toBytes, ofBytes_encode written, ofText, toText, String.toList_ofList, writeText]

theorem ofText_toText_structured {value : Json} (exact : value.IsExact) :
    ofText (Scalar.structured value).toText .structured =
      if value.depth ≤ Json.depthLimit then .ok (.structured value)
      else .error (.json "not a JSON document") := by
  rw [ofText, toText, String.toList_ofList, writeText, structuredOfText, Json.ofText?_write exact]
  by_cases within : value.depth ≤ Json.depthLimit
  · rw [if_pos within, if_pos within]
  · rw [if_neg within, if_neg within]

/-- **A structured scalar that is read is regular and within the limit of depth.** -/
theorem isRegular_of_ofText {text : String} {value : Json}
    (read : ofText text .structured = .ok (.structured value)) :
    value.IsRegular ∧ value.depth ≤ Json.depthLimit := by
  rw [ofText, structuredOfText] at read
  split at read
  case h_1 found =>
    cases read
    exact Json.isRegular_of_ofText? found
  case h_2 => cases read

/-- What is read and has no floats is read from its own text again. -/
theorem ofText_toText_of_ofText {text : String} {value : Json}
    (read : ofText text .structured = .ok (.structured value)) (exact : value.IsExact) :
    ofText (Scalar.structured value).toText .structured = .ok (.structured value) := by
  rw [ofText_toText_structured exact, if_pos (isRegular_of_ofText read).2]

/-- **Structured scalars without floats survive text and bytes as long as they are not too deep**,
whatever their strings and keys are made of; deeper ones are refused by both readers. -/
theorem structured_roundTrip {value : Json} (exact : value.IsExact) :
    (value.depth ≤ Json.depthLimit →
      ofText (Scalar.structured value).toText .structured = .ok (.structured value) ∧
        ofBytes (Scalar.structured value).toBytes .structured = .ok (.structured value)) ∧
      (Json.depthLimit < value.depth →
        ofText (Scalar.structured value).toText .structured =
            .error (.json "not a JSON document") ∧
          ofBytes (Scalar.structured value).toBytes .structured =
            .error (.json "not a JSON document")) := by
  have read := ofText_toText_structured exact
  rw [ofBytes_toBytes_structured, and_self, and_self, read]
  exact ⟨fun within => if_pos within, fun beyond => if_neg (Nat.not_le.mpr beyond)⟩

/-- An object in a number of arrays, with keys that are written with escapes or without. -/
def nested : Nat → Json
  | 0 => .object [("\x00\"", .string "\\\n"), ("é", .integer (-9223372036854775808))]
  | levels + 1 => .array [nested levels]

theorem isExact_nested (levels : Nat) : (nested levels).IsExact := by
  induction levels with
  | zero =>
      exact .object (by decide) (List.forall_mem_cons.mpr
        ⟨.string _, List.forall_mem_singleton.mpr (.integer (by decide))⟩)
  | succ levels ih => exact .array (List.forall_mem_singleton.mpr ih)

theorem depth_nested (levels : Nat) : (nested levels).depth = levels + 1 := by
  induction levels with
  | zero => rfl
  | succ levels ih =>
      rw [nested, Json.depth, Json.elementsDepth, ih]
      rfl

theorem structured_roundTrip_nested :
    (ofText (Scalar.structured (nested 126)).toText .structured =
          .ok (.structured (nested 126)) ∧
        ofBytes (Scalar.structured (nested 126)).toBytes .structured =
          .ok (.structured (nested 126))) ∧
      ofText (Scalar.structured (nested 127)).toText .structured =
          .error (.json "not a JSON document") ∧
        ofBytes (Scalar.structured (nested 127)).toBytes .structured =
          .error (.json "not a JSON document") :=
  ⟨(structured_roundTrip (isExact_nested 126)).1 (Nat.le_of_eq (depth_nested 126)),
    (structured_roundTrip (isExact_nested 127)).2 (Nat.le_of_eq (depth_nested 127).symm)⟩

end NamedConstants.Scalar
