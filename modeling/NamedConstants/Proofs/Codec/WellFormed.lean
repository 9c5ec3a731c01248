import NamedConstants.Codec.Json
import NamedConstants.Proofs.Json.WellFormed

/-!
# Which instances are written as JSON

The JSON codec writes by way of three writers: names, strings, bytes and timestamps are
JSON strings, structured values are JSON already, and numbers and truth values are bare
text. The text of every number is JSON, except that a float may be infinite or not a number
at all, and then its bare text is a word that JSON does not have. So the bytes of an
instance are a document unless it travels by value and is such a float
(`isJson_encode_iff`).
-/

set_option autoImplicit false

namespace NamedConstants

open Codec.Json (encode writeRaw)
open Json (IsDocument)

variable {kind : Kind}

/-- The bytes are a JSON document. -/
def IsJson (data : Text.Bytes) : Prop :=
  ∃ text, data = Text.encode text ∧ IsDocument text

theorem isJson_iff_isDocument {text : List Char} : IsJson (Text.encode text) ↔ IsDocument text := by
  constructor
  · rintro ⟨text', same, document⟩
    rw [Text.encode_injective same]
    exact document
  · exact fun document => ⟨text, rfl, document⟩

/-! ## Raw scalars -/

/-- The scalar is a float that is not finite. -/
def Scalar.isEndless : Scalar kind → Bool
  | .float x => !x.isFinite
  | _ => false

/-- A raw scalar is written as a value, unless it is an endless float. -/
theorem isValue_writeRaw {raw : Scalar kind} (ended : raw.isEndless = false) :
    Json.IsValue (writeRaw raw) := by
  cases raw with
  | integer x => exact .number (Json.isNumber_integerText x.value)
  | float x =>
      rw [Scalar.isEndless, Bool.not_eq_false'] at ended
      exact .number (Json.isNumber_toText ended)
  | bool x =>
      cases x with
      | false => exact .word (by decide)
      | true => exact .word (by decide)
  | string x => exact .string (Json.isString_writeString x)
  | bytes x => exact .string (Json.isString_writeString _)
  | timestamp x => exact .string (Json.isString_writeString _)
  | structured x => exact Json.isValue_write x

/-- The text of an infinity has no digit, nor has the one of what is not a number. -/
theorem not_isDocument_toText {format : BinaryFormat} {x : BinaryFloat format}
    (endless : x.isFinite = false) : ¬IsDocument x.toText := by
  rcases x.sorts with nan | infinite | finite
  · rw [BinaryFloat.toText, nan, if_pos rfl]
    exact Json.not_isDocument_of_start rfl rfl _
  · rw [infinite, BinaryFloat.toText, BinaryFloat.isNaN_infinity, BinaryFloat.isInfinite_infinity]
    cases x.negative with
    | false => exact Json.not_isDocument_of_start rfl rfl _
    | true => exact Json.not_isDocument_of_minus rfl _
  · exact absurd finite (of_decide_eq_false endless)

theorem isDocument_writeRaw_iff {raw : Scalar kind} :
    IsDocument (writeRaw raw) ↔ raw.isEndless = false := by
  cases endless : raw.isEndless with
  | false => exact iff_of_true (isValue_writeRaw endless).isElement rfl
  | true =>
      cases raw with
      | float x =>
          rw [Scalar.isEndless, Bool.not_eq_true'] at endless
          refine iff_of_false (not_isDocument_toText endless) ?_
          rintro ⟨⟩
      | _ => cases endless

/-! ## Instances -/

/-- **The bytes of an instance are a JSON document, unless it travels by value and is a
float that is not finite.** -/
theorem isJson_encode_iff (family : Family kind) (raw : Scalar kind) :
    IsJson (encode family raw) ↔ family.representation = .byValue → raw.isEndless = false := by
  rw [encode, isJson_iff_isDocument]
  cases family.representation with
  | byName =>
      refine iff_of_true (Json.IsValue.string (Json.isString_writeString _)).isElement ?_
      rintro ⟨⟩
  | byValue => exact isDocument_writeRaw_iff.trans ⟨fun ended _ => ended, fun ended => ended rfl⟩

/-- An infinity that travels by value is a bare word, although it is a declared member. -/
theorem encode_infinity :
    let limit : Scalar (.float .double) := .float (.infinity false)
    let family := Family.ofMembers "Limit" .byValue true [⟨limit, "Limit", [], true⟩]
    limit ∈ family.all ∧ encode family limit = Text.bytesOf "inf" ∧ ¬IsJson (encode family limit) := by
  intro limit family
  have text : (BinaryFloat.infinity false : Double).toText = "inf".toList := by decide +kernel
  have written : encode family limit = Text.bytesOf "inf" := congrArg Text.encode text
  refine ⟨List.mem_cons_self, written, ?_⟩
  rw [written, Text.bytesOf, isJson_iff_isDocument]
  exact Json.not_isDocument_of_start rfl rfl _

end NamedConstants
