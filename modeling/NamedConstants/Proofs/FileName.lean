import NamedConstants.FileName
import NamedConstants.Proofs.Text.Lossy

/-!
# Names and their texts

A text is shown as itself (`text_ofText`), and it is the only text name that is
shown so (`eq_of_text_eq`). What is shown of a name that is put together from
two is shown of its parts, if the second one is a text or starts with an ASCII
character (`text_append_ofText`, `text_append_of_ascii`), and it holds a slash
exactly where the name does (`slash_mem_text_iff`).
-/

set_option autoImplicit false

namespace NamedConstants.FileName

variable {name other : FileName}

/-! ## Names that are texts -/

@[simp] theorem text_ofText (text : String) : (ofText text).text = text := by
  rw [FileName.text, ofText, Text.bytesOf, Text.lossyString_encode, String.ofList_toList]

theorem ofText_inj {one other : String} : ofText one = ofText other ↔ one = other := by
  constructor
  · intro same
    exact Text.bytesOf_injective (FileName.mk.inj same)
  · exact congrArg ofText

/-- A name is a text exactly if it is what is shown of it. -/
theorem isText_iff : name.isText = true ↔ ofText name.text = name := by
  rw [isText, ← Text.encode_decodeLossy_iff, ofText, text, Text.bytesOf, Text.lossyString,
    String.toList_ofList]
  exact ⟨fun same => congrArg FileName.mk same, fun same => congrArg FileName.bytes same⟩

theorem isText_ofText (text : String) : (ofText text).isText = true := by
  rw [isText_iff, text_ofText]

/-- Texts that are shown alike are the same. -/
theorem eq_of_text_eq (isText : name.isText = true) (isText' : other.isText = true)
    (same : name.text = other.text) : name = other := by
  rw [← isText_iff.mp isText, ← isText_iff.mp isText', same]

/-! ## Names that are put together -/

/-- A text behind other bytes is shown as itself. -/
theorem text_append_ofText (front : Text.Bytes) (ending : String) :
    text ⟨front ++ Text.bytesOf ending⟩ = text ⟨front⟩ ++ ending := by
  rw [text, text, Text.lossyString, Text.lossyString, Text.bytesOf,
    Text.decodeLossy_append front (Text.startsNew_encode _), Text.decodeLossy_encode,
    String.ofList_append, String.ofList_toList]

/-- An ASCII character between bytes is shown as itself. -/
theorem text_append_of_ascii (front : Text.Bytes) {byte : UInt8} (ascii : byte.toNat < 0x80)
    (rest : Text.Bytes) :
    text ⟨front ++ byte :: rest⟩ =
      text ⟨front⟩ ++ String.singleton (Char.ofNat byte.toNat) ++ text ⟨rest⟩ := by
  rw [← String.toList_inj]
  simp only [text, Text.lossyString, String.toList_append, String.toList_ofList,
    String.toList_singleton,
    Text.decodeLossy_append front (Text.startsNew_cons_of_ascii ascii rest),
    Text.decodeLossy_cons_of_ascii ascii, List.append_assoc, List.singleton_append]

/-- A slash is shown exactly where one stands. -/
theorem slash_mem_text_iff : '/' ∈ name.text.toList ↔ slash ∈ name.bytes := by
  rw [text, Text.lossyString, String.toList_ofList]
  have ascii : slash.toNat < 0x80 := by decide
  exact Text.mem_decodeLossy_iff ascii

theorem slash_mem_ofText_iff {text : String} : slash ∈ (ofText text).bytes ↔ '/' ∈ text.toList := by
  rw [← slash_mem_text_iff, text_ofText]

end NamedConstants.FileName
