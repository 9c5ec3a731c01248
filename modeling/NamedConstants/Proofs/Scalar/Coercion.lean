import NamedConstants.Proofs.BinaryFloat.Truncation
import NamedConstants.Proofs.Result
import NamedConstants.Proofs.Scalar.Binary
import NamedConstants.Proofs.Scalar.IntegerText

/-!
# Values brought into an integer kind

A value denotes an integer or none (`RawValue.Denotes`), whatever kind is wanted. It is
brought into an integer kind exactly if it denotes an integer in the range of this kind,
and the result is this integer (`coerce_integer`).

The way to a float's whole part compares it with the bounds as floats, and the largest
numbers of 64 bits are rounded up there. Since integers are rounded in their order, this
comparison never stops a number that fits; and what it lets through is compared once more
as an integer. So both comparisons together are exact (`coerce_of_denotes`).
-/

set_option autoImplicit false

namespace NamedConstants

open IntegerText (Spells)

/-! ## Denoted integers -/

namespace RawValue

/-- The integer that a value denotes: a number itself, zero or one for a truth value, a
finite float cut towards zero, and what a text spells between blanks. -/
inductive Denotes : RawValue → Int → Prop
  | integer {kind : IntegerKind} (x : BoundedInt kind) : Denotes (.scalar (.integer x)) x.value
  | falsity : Denotes (.scalar (.bool false)) 0
  | truth : Denotes (.scalar (.bool true)) 1
  | float {precision : FloatKind} {x : BinaryFloat precision.format} (finite : x.isFinite = true) :
      Denotes (.scalar (.float x)) (x.toUnits.tdiv (twoTo precision.format.unitExponent : Nat))
  | string {text : String} {value : Int} (spelled : Spells (Text.trim text.toList) value) :
      Denotes (.scalar (.string text)) value
  | bytes {bytes : Text.Bytes} {value : Int}
      (spelled : Spells (Text.trim (Text.decodeLossy bytes)) value) :
      Denotes (.scalar (.bytes bytes)) value

variable {source : RawValue} {value : Int}

/-- A value that is made of characters denotes what they spell. -/
theorem denotes_iff_spells {text : String} (characters : source.characters? = some text) :
    source.Denotes value ↔ Spells (Text.trim text.toList) value := by
  unfold characters? at characters
  split at characters
  case h_1 =>
    cases characters
    constructor
    · rintro ⟨⟩
      assumption
    · exact .string
  case h_2 =>
    cases characters
    rw [Text.lossyString, String.toList_ofList]
    constructor
    · rintro ⟨⟩
      assumption
    · exact .bytes
  case h_3 => cases characters

end RawValue

/-- The integer has 128 bits with a sign. -/
def IsWide (value : Int) : Prop :=
  wideMinimum ≤ value ∧ value ≤ wideMaximum

theorem isWide_of_contains {kind : IntegerKind} {value : Int} (contained : kind.Contains value) :
    IsWide value := by
  have low : wideMinimum ≤ kind.minimum := by cases kind <;> decide
  have high : kind.maximum ≤ wideMaximum := by cases kind <;> decide
  exact ⟨Int.le_trans low contained.1, Int.le_trans contained.2 high⟩

/-! ## The sources one by one -/

variable {source : RawValue} {kind : IntegerKind}

/-- The number that a source gives is compared with the range of the kind. -/
theorem coerce_of_denotedInteger {value : Int} (denoted : denotedInteger source kind = .ok value) :
    coerce source (.integer kind) = Scalar.ofInt kind value := by
  rw [coerce, denoted]
  rfl

theorem coerce_of_failure {failure : Failure} (failed : denotedInteger source kind = .error failure) :
    coerce source (.integer kind) = .error failure := by
  rw [coerce, failed]
  rfl

theorem denotedInteger_of_characters {text : String} (characters : source.characters? = some text) :
    denotedInteger source kind = Scalar.orUnreadable text (.integer kind)
      (IntegerText.read wideMinimum wideMaximum (Text.trim text.toList)) := by
  unfold RawValue.characters? at characters
  split at characters
  case h_1 =>
    cases characters
    rfl
  case h_2 =>
    cases characters
    rfl
  case h_3 => cases characters

/-- The range of 128 bits has negative numbers, so the reader takes a minus. -/
theorem read_wide_eq_ok_iff {text : List Char} {value : Int} :
    IntegerText.read wideMinimum wideMaximum text = .ok value ↔ Spells text value ∧ IsWide value := by
  rw [IntegerText.read_eq_ok_iff (by decide) (by decide)]
  constructor
  · exact fun read => ⟨read.1, read.2.1, read.2.2.1⟩
  · exact fun spelled => ⟨spelled.1, spelled.2.1, spelled.2.2, fun zero => absurd zero (by decide)⟩

/-- The whole part of a float passes if it lies in the range of the kind. -/
theorem wholePart_of_contains {x : Double} (finite : x.isFinite = true)
    (contained : kind.Contains x.truncate) : wholePart x kind = .ok x.truncate := by
  have wide : 0 < BinaryFormat.double.fractionBits := by decide
  have least := BinaryFloat.ofInt_le_ofInt wide contained.1
  have most := BinaryFloat.ofInt_le_ofInt wide contained.2
  simp only [wholePart, finite, least, most, Bool.and_self, if_true]

/-- The largest integer of 64 bits is no float, and the nearest one is out of the range. It
passes when the bounds are compared as floats. -/
example : (BinaryFloat.ofInt IntegerKind.int64.maximum : Double).truncate =
    IntegerKind.int64.maximum + 1 := by
  decide +kernel

/-- The whole part of a finite float passes, or the float is reported. -/
theorem wholePart_cases (x : Double) (kind : IntegerKind) :
    x.isFinite = true ∧ wholePart x kind = .ok x.truncate ∨
      wholePart x kind = .error (.overflow (String.ofList x.toText) (.integer kind)) := by
  unfold wholePart
  dsimp only
  split
  case isTrue passed =>
    rw [Bool.and_eq_true, Bool.and_eq_true] at passed
    exact .inl ⟨passed.1.1, rfl⟩
  case isFalse => exact .inr rfl

/-- A float that is no finite number has no whole part. -/
theorem wholePart_of_not_finite {x : Double} (endless : x.isFinite = false) :
    wholePart x kind = .error (.overflow (String.ofList x.toText) (.integer kind)) := by
  rcases wholePart_cases x kind with ⟨finite, -⟩ | reported
  · rw [endless] at finite
    cases finite
  · exact reported

/-- A float is widened before it is cut, which changes neither its sort nor its whole
part. -/
theorem isFinite_widen {precision : FloatKind} (x : BinaryFloat precision.format) :
    (x.cast : Double).isFinite = x.isFinite := by
  obtain ⟨shift, embeds⟩ := precision.embeds_double
  exact BinaryFloat.isFinite_cast embeds precision.fractionBits_pos x

theorem truncate_widen {precision : FloatKind} {x : BinaryFloat precision.format}
    (finite : x.isFinite = true) :
    (x.cast : Double).truncate = x.toUnits.tdiv (twoTo precision.format.unitExponent : Nat) := by
  obtain ⟨shift, embeds⟩ := precision.embeds_double
  rw [BinaryFloat.truncate_cast embeds precision.fractionBits_pos finite,
    BinaryFloat.truncate_eq_tdiv]

/-! ## All sources -/

/-- What is given for characters is the integer of 128 bits that they spell. -/
theorem denotedInteger_eq_ok_iff {text : String} (characters : source.characters? = some text)
    {value : Int} :
    denotedInteger source kind = .ok value ↔ source.Denotes value ∧ IsWide value := by
  rw [denotedInteger_of_characters characters, Scalar.orUnreadable, mapError_eq_ok_iff,
    read_wide_eq_ok_iff, RawValue.denotes_iff_spells characters]

/-- What a source gives is what it denotes. -/
theorem denotes_of_denotedInteger {value : Int} (denoted : denotedInteger source kind = .ok value) :
    source.Denotes value := by
  cases source with
  | null => cases denoted
  | scalar held =>
      cases held with
      | integer x =>
          cases denoted
          exact .integer x
      | float x =>
          have whole : wholePart x.cast kind = .ok value := denoted
          rcases wholePart_cases x.cast kind with ⟨finite, passed⟩ | reported
          · rw [isFinite_widen] at finite
            rw [passed, truncate_widen finite] at whole
            cases whole
            exact .float finite
          · rw [reported] at whole
            cases whole
      | bool truth =>
          cases truth with
          | false =>
              cases denoted
              exact .falsity
          | true =>
              cases denoted
              exact .truth
      | string text => exact ((denotedInteger_eq_ok_iff rfl).mp denoted).1
      | bytes bytes => exact ((denotedInteger_eq_ok_iff rfl).mp denoted).1
      | timestamp => cases denoted
      | structured => cases denoted

/-- **A denoted integer is compared with the range of the kind.** A text may spell an
integer that does not come that far, and a float outside the range may be stopped
before. -/
theorem coerce_of_denotes {value : Int} (denotes : source.Denotes value)
    (short : source.characters? = none ∨ IsWide value) :
    coerce source (.integer kind) = Scalar.ofInt kind value ∨
      ¬kind.Contains value ∧
        ∃ shown, coerce source (.integer kind) = .error (.overflow shown (.integer kind)) := by
  cases denotes with
  | integer x => exact .inl (coerce_of_denotedInteger rfl)
  | falsity => exact .inl (coerce_of_denotedInteger rfl)
  | truth => exact .inl (coerce_of_denotedInteger rfl)
  | @float precision x finite =>
      rw [← truncate_widen finite]
      rcases wholePart_cases x.cast kind with ⟨-, passed⟩ | reported
      · exact .inl (coerce_of_denotedInteger passed)
      · refine .inr ⟨fun contained => ?_, _, coerce_of_failure reported⟩
        rw [wholePart_of_contains ((isFinite_widen x).trans finite) contained] at reported
        cases reported
  | string spelled =>
      have wide := short.resolve_left (Option.some_ne_none _)
      exact .inl (coerce_of_denotedInteger ((denotedInteger_eq_ok_iff rfl).mpr ⟨.string spelled, wide⟩))
  | bytes spelled =>
      have wide := short.resolve_left (Option.some_ne_none _)
      exact .inl (coerce_of_denotedInteger ((denotedInteger_eq_ok_iff rfl).mpr ⟨.bytes spelled, wide⟩))

/-- A denoted integer in the range of the kind is the result. -/
theorem coerce_of_contains {value : Int} (denotes : source.Denotes value)
    (contained : kind.Contains value) :
    coerce source (.integer kind) = .ok (.integer ⟨value, contained⟩) := by
  rcases coerce_of_denotes denotes (.inr (isWide_of_contains contained)) with exact | ⟨outside, -⟩
  · rw [exact, Scalar.ofInt_of_contains contained]
  · exact absurd contained outside

theorem coerce_eq_ok_iff {raw : Scalar (.integer kind)} :
    coerce source (.integer kind) = .ok raw ↔
      ∃ value, source.Denotes value ∧ ∃ fits : kind.Contains value, raw = .integer ⟨value, fits⟩ := by
  constructor
  · intro coerced
    obtain ⟨value, denoted, fits⟩ := bind_eq_ok_iff.mp coerced
    exact ⟨value, denotes_of_denotedInteger denoted, Scalar.ofInt_eq_ok_iff.mp fits⟩
  · rintro ⟨value, denotes, fits, rfl⟩
    exact coerce_of_contains denotes fits

/-- An integer outside the range is reported. -/
theorem coerce_of_not_contains {value : Int} (denotes : source.Denotes value)
    (short : source.characters? = none ∨ IsWide value) (outside : ¬kind.Contains value) :
    ∃ shown, coerce source (.integer kind) = .error (.overflow shown (.integer kind)) := by
  rcases coerce_of_denotes denotes short with exact | ⟨-, reported⟩
  · exact ⟨_, exact.trans (Scalar.ofInt_of_not_contains outside)⟩
  · exact reported

/-- A text that spells no integer of 128 bits is not read. -/
theorem coerce_of_unspelled {text : String} (characters : source.characters? = some text)
    (unspelled : ∀ value, source.Denotes value → ¬IsWide value) :
    ∃ reason, coerce source (.integer kind) = .error (.unreadable text (.integer kind) reason) := by
  cases read : IntegerText.read wideMinimum wideMaximum (Text.trim text.toList) with
  | ok value =>
      obtain ⟨spelled, wide⟩ := read_wide_eq_ok_iff.mp read
      exact absurd wide (unspelled value ((RawValue.denotes_iff_spells characters).mpr spelled))
  | error reason =>
      refine ⟨reason, coerce_of_failure ?_⟩
      rw [denotedInteger_of_characters characters, read]
      rfl

/-- Null, timestamps and structured values have no form of a number. -/
theorem coerce_of_numberless
    (numberless : source.kind? ∈ [none, some .timestamp, some .structured]) :
    coerce source (.integer kind) = .error (.unsupportedConversion source.kindName (.integer kind)) := by
  cases source with
  | null => rfl
  | scalar held =>
      cases held with
      | timestamp => rfl
      | structured => rfl
      | integer => simp [RawValue.kind?] at numberless
      | float => simp [RawValue.kind?] at numberless
      | bool => simp [RawValue.kind?] at numberless
      | string => simp [RawValue.kind?] at numberless
      | bytes => simp [RawValue.kind?] at numberless

/-- **A value is brought into an integer kind exactly if it denotes an integer in the range
of the kind, and the result is this integer.** An integer outside the range is an overflow,
and so is a float that is no finite number; a text that spells no integer, or none of 128
bits, is unreadable; null, timestamps and structured values denote nothing, and the
conversion of them is refused. -/
theorem coerce_integer (source : RawValue) (kind : IntegerKind) :
    let result := coerce source (.integer kind)
    (∀ raw, result = .ok raw ↔
      ∃ value, source.Denotes value ∧ ∃ fits : kind.Contains value, raw = .integer ⟨value, fits⟩) ∧
    (∀ value, source.Denotes value → ¬kind.Contains value →
      source.characters? = none ∨ IsWide value →
        ∃ shown, result = .error (.overflow shown (.integer kind))) ∧
    (∀ (precision : FloatKind) (x : BinaryFloat precision.format), source = .scalar (.float x) →
      x.isFinite = false → ∃ shown, result = .error (.overflow shown (.integer kind))) ∧
    (∀ text, source.characters? = some text → (∀ value, source.Denotes value → ¬IsWide value) →
      ∃ reason, result = .error (.unreadable text (.integer kind) reason)) ∧
    (source.kind? ∈ [none, some .timestamp, some .structured] →
      result = .error (.unsupportedConversion source.kindName (.integer kind))) := by
  refine ⟨fun raw => coerce_eq_ok_iff, fun value denotes outside short =>
    coerce_of_not_contains denotes short outside, ?_, fun text => coerce_of_unspelled, ?_⟩
  · rintro precision x rfl endless
    exact ⟨_, coerce_of_failure (wholePart_of_not_finite ((isFinite_widen x).trans endless))⟩
  · exact coerce_of_numberless

end NamedConstants
