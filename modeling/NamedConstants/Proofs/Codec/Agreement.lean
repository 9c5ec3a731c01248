import NamedConstants.Proofs.Codec.RoundTrip
import NamedConstants.Proofs.Family.Resolution
import NamedConstants.Proofs.Json.Integer
import NamedConstants.Proofs.Scalar.Coercion

/-!
# Integers as text in three codecs

The JSON codec, the text codec and the database codec read an integer from a text by
rules of their own. JSON takes blanks around it and neither a plus nor a leading zero; the
text codec takes both of these and no blank, and no minus if the kind has no negative
numbers; a driver's text may have all of them. So the first two read only what the third
one reads, and as the same integer (`spellsMember_of_json`, `spellsMember_of_text`): a
text leads to one member in all of them, if it leads to a member at all
(`driver_of_json_or_text`).
-/

set_option autoImplicit false

namespace NamedConstants

open IntegerText (Spells)

variable {kind : IntegerKind} {family : Family (.integer kind)} {text : String}
variable {member target : Scalar (.integer kind)}

/-- The text spells, between blanks, an integer that leads to the member. -/
def SpellsMember (family : Family (.integer kind)) (text : String)
    (member : Scalar (.integer kind)) : Prop :=
  ∃ x : BoundedInt kind, Spells (Text.trim text.toList) x.value ∧
    family.find? (.value (.integer x)) = some member

/-- A text leads to one member. -/
theorem SpellsMember.unique {other : Scalar (.integer kind)} (led : SpellsMember family text member)
    (led' : SpellsMember family text other) : member = other := by
  obtain ⟨⟨value, contained⟩, spelled, found⟩ := led
  obtain ⟨⟨value', contained'⟩, spelled', found'⟩ := led'
  cases spelled.unique spelled'
  exact Option.some.inj (found.symm.trans found')

/-! ## The codecs one by one -/

/-- The integer that the text codec reads is spelled. -/
theorem spells_of_ofText {raw : Scalar (.integer kind)}
    (read : Scalar.ofText text (.integer kind) = .ok raw) :
    ∃ x, raw = .integer x ∧ Spells (Text.trim text.toList) x.value := by
  rw [Scalar.ofText, Scalar.orUnreadable, mapError_eq_ok_iff, Scalar.integerOfText] at read
  split at read
  case h_1 => cases read
  case h_2 value written =>
    have spelled := ((IntegerText.read_eq_ok_iff kind.minimum_nonpos kind.maximum_nonneg).mp written).1
    split at read
    case h_1 fits =>
      cases read
      obtain ⟨fits, rfl⟩ := Scalar.ofInt?_eq_some_iff.mp fits
      exact ⟨_, rfl, spelled.trim_eq.symm ▸ spelled⟩
    case h_2 => cases read

/-- The integer that JSON reads is spelled. -/
theorem spells_of_readValue {candidate : Candidate (.integer kind)}
    (read : Codec.Json.readValue (Text.bytesOf text) = .ok candidate) :
    ∃ x, candidate = .value (.integer x) ∧ Spells (Text.trim text.toList) x.value := by
  rw [Codec.Json.readValue, Result.describe, mapError_eq_ok_iff, bind_eq_ok_iff] at read
  obtain ⟨json, parsed, read⟩ := read
  rw [Scalar.jsonOfBytes, Text.bytesOf, Text.decode_encode] at parsed
  dsimp only at parsed
  split at parsed
  case h_2 => cases parsed
  case h_1 document =>
    cases parsed
    split at read
    case h_2 => cases read
    case h_1 raw direct =>
      cases read
      cases json with
      | integer value =>
          obtain ⟨fits, rfl⟩ := Scalar.ofInt?_eq_some_iff.mp direct
          exact ⟨_, rfl, Json.spells_of_ofText? document⟩
      | _ => cases direct

section ByValue

variable (valued : family.representation = .byValue)

include valued

/-- What JSON reads as a member is spelled. -/
theorem spellsMember_of_json (decoded : Codec.Json.decode family (Text.bytesOf text) = .ok member) :
    SpellsMember family text member := by
  rw [Codec.Json.decode, valued] at decoded
  obtain ⟨candidate, read, resolved⟩ := bind_eq_ok_iff.mp decoded
  obtain ⟨x, rfl, spelled⟩ := spells_of_readValue read
  exact ⟨x, spelled, Family.resolve_eq_ok_iff.mp resolved⟩

/-- What the text codec reads as a member is spelled. -/
theorem spellsMember_of_text (decoded : Codec.Text.decode family text = .ok member) :
    SpellsMember family text member := by
  rw [Codec.Text.decode, valued] at decoded
  obtain ⟨candidate, read, resolved⟩ := bind_eq_ok_iff.mp decoded
  obtain ⟨raw, written, rfl⟩ := map_eq_ok_iff.mp read
  obtain ⟨x, rfl, spelled⟩ := spells_of_ofText written
  exact ⟨x, spelled, Family.resolve_eq_ok_iff.mp resolved⟩

/-- **A driver's text is scanned into the member that it spells.** -/
theorem scan_eq_ok_iff_spellsMember {source : RawValue} (characters : source.characters? = some text) :
    Codec.Driver.scan family target source = .ok member ↔ SpellsMember family text member := by
  have present : source.isNull = false := by
    cases source with
    | null => cases characters
    | scalar => rfl
  rw [Codec.Driver.scan, present, if_neg Bool.false_ne_true, Codec.Driver.readCandidate, valued]
  dsimp only
  rw [scan_of_present present, bind_eq_ok_iff]
  constructor
  · rintro ⟨candidate, scanned, resolved⟩
    obtain ⟨raw, coerced, rfl⟩ := map_eq_ok_iff.mp scanned
    obtain ⟨value, denotes, fits, rfl⟩ := coerce_eq_ok_iff.mp coerced
    exact ⟨⟨value, fits⟩, (RawValue.denotes_iff_spells characters).mp denotes,
      Family.resolve_eq_ok_iff.mp resolved⟩
  · rintro ⟨⟨value, fits⟩, spelled, found⟩
    have denotes := (RawValue.denotes_iff_spells characters).mpr spelled
    exact ⟨_, map_eq_ok_iff.mpr ⟨_, coerce_of_contains denotes fits, rfl⟩,
      Family.resolve_eq_ok_iff.mpr found⟩

end ByValue

/-- The bytes of a text are read as the text. -/
theorem characters?_bytesOf (text : String) :
    (RawValue.scalar (.bytes (Text.bytesOf text))).characters? = some text := by
  rw [RawValue.characters?, Text.bytesOf, Text.lossyString_encode, String.ofList_toList]

/-! ## All three -/

/-- The members that the codecs find for a text, or why they find none: from JSON, from
text, and from a driver's string and bytes. -/
def answersTo (family : Family (.integer kind)) (target : Scalar (.integer kind)) (text : String) :
    List (Result (Scalar (.integer kind))) :=
  [Codec.Json.decode family (Text.bytesOf text), Codec.Text.decode family text,
    Codec.Driver.scan family target (.scalar (.string text)),
    Codec.Driver.scan family target (.scalar (.bytes (Text.bytesOf text)))]

/-- Every member that is found is spelled. -/
theorem spellsMember_of_mem_answersTo (valued : family.representation = .byValue)
    (answer : .ok member ∈ answersTo family target text) : SpellsMember family text member := by
  simp only [answersTo, List.mem_cons, List.not_mem_nil, or_false] at answer
  rcases answer with json | written | scanned | scanned
  · exact spellsMember_of_json valued json.symm
  · exact spellsMember_of_text valued written.symm
  · exact (scan_eq_ok_iff_spellsMember valued rfl).mp scanned.symm
  · exact (scan_eq_ok_iff_spellsMember valued (characters?_bytesOf text)).mp scanned.symm

/-- **What JSON or the text codec reads from a text, a driver's text is scanned into**, as a
string and as bytes. So no two of the codecs lead from a text to different members. -/
theorem driver_of_json_or_text (typeName : String) (insensitive : Bool)
    (members : List (Member (.integer kind))) (text : String) :
    let family := Family.ofMembers typeName .byValue insensitive members
    (∀ member target : Scalar (.integer kind),
      Codec.Json.decode family (Text.bytesOf text) = .ok member ∨
        Codec.Text.decode family text = .ok member →
      Codec.Driver.scan family target (.scalar (.string text)) = .ok member ∧
        Codec.Driver.scan family target (.scalar (.bytes (Text.bytesOf text))) = .ok member) ∧
    (∀ target target' member member' : Scalar (.integer kind),
      .ok member ∈ answersTo family target text → .ok member' ∈ answersTo family target' text →
        member = member') := by
  intro family
  have valued : family.representation = .byValue := rfl
  constructor
  · intro member target decoded
    have led : SpellsMember family text member := by
      rcases decoded with json | written
      · exact spellsMember_of_json valued json
      · exact spellsMember_of_text valued written
    exact ⟨(scan_eq_ok_iff_spellsMember valued rfl).mpr led,
      (scan_eq_ok_iff_spellsMember valued (characters?_bytesOf text)).mpr led⟩
  · intro target target' member member' answer answer'
    exact (spellsMember_of_mem_answersTo valued answer).unique
      (spellsMember_of_mem_answersTo valued answer')

/-- Blanks are read from JSON only and a plus by the text codec only, and both from a
driver's text. -/
theorem driver_of_blanks_or_plus :
    let seven : Scalar (.integer .int16) := .integer ⟨7, by decide⟩
    let family := Family.ofMembers "Level" .byValue true [⟨seven, "Seven", [], true⟩]
    Codec.Json.decode family (Text.bytesOf " 7\n") = .ok seven ∧
      Codec.Text.decode family "+07" = .ok seven ∧
      Codec.Driver.scan family (.default _) (.scalar (.string " 7\n")) = .ok seven ∧
      Codec.Driver.scan family (.default _) (.scalar (.string "+07")) = .ok seven := by
  intro seven family
  have found (shown : String) : family.resolve (.value seven) shown = .ok seven :=
    Family.resolve_value_ofMembers "Level" .byValue true _ rfl seven shown
  have json : Codec.Json.decode family (Text.bytesOf " 7\n") = .ok seven := by
    have parsed := jsonOfBytes_encode (show Json.ofText? " 7\n".toList = some (.integer 7) from rfl)
    rw [Codec.Json.decode, Codec.Json.readValue, Text.bytesOf, parsed]
    exact found _
  have written : Codec.Text.decode family "+07" = .ok seven := found "+07"
  exact ⟨json, written,
    ((driver_of_json_or_text "Level" true _ " 7\n").1 seven (.default _) (.inl json)).1,
    ((driver_of_json_or_text "Level" true _ "+07").1 seven (.default _) (.inr written)).1⟩

end NamedConstants
