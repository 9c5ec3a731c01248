import NamedConstants.Proofs.Family.Resolution
import NamedConstants.Proofs.Scalar.Coercion

/-!
# Members found by a number

A family of integers finds a member from any number, an integer of another width or a
float. It finds the first member whose integer is this number exactly, and none if there is
no such member (`findAny?_of_isNumber`).

The number is brought into the integer kind of the family on the way, and there a float
loses its fraction. That no neighbour is found in its place rests on the test before:
a float that passes it is finite and a whole number (`hasFraction_eq_false_iff`), so its
whole part is itself. A number outside the range of the kind is a miss like any other.
-/

set_option autoImplicit false

namespace NamedConstants

/-! ## Whole numbers among the floats -/

/-- A float without a fraction is a whole number of ones. -/
theorem BinaryFloat.hasFraction_eq_false_iff {format : BinaryFormat} {x : BinaryFloat format} :
    x.hasFraction = false ↔
      x.isFinite = true ∧ ((twoTo format.unitExponent : Nat) : Int) ∣ x.toUnits := by
  have divides : ((twoTo format.unitExponent : Nat) : Int) ∣ x.toUnits ↔
      format.units x.pattern % twoTo format.unitExponent = 0 := by
    rw [← Nat.dvd_iff_mod_eq_zero, ← Int.natCast_dvd_natCast, toUnits]
    split
    · exact Int.dvd_neg
    · exact Iff.rfl
  rw [divides]
  simp [hasFraction]

namespace RawValue

/-- The value is an integer or a float. -/
def isNumber (value : RawValue) : Bool :=
  value.kind?.any fun kind => kind.isInteger || kind.isFloat

/-- The value is the number `value`, as mathematics has it. -/
def isEqualTo (source : RawValue) (value : Int) : Bool :=
  match source with
  | .scalar (.integer x) => x.value == value
  | @scalar (.float precision) (.float x) =>
    x.isFinite && x.toUnits == value * (twoTo precision.format.unitExponent : Nat)
  | _ => false

/-- A number is an integer or a float. -/
theorem exists_of_isNumber {source : RawValue} (number : source.isNumber = true) :
    (∃ (kind : IntegerKind) (x : BoundedInt kind), source = .scalar (.integer x)) ∨
      ∃ (precision : FloatKind) (x : BinaryFloat precision.format),
        source = .scalar (.float x) := by
  cases source with
  | null => cases number
  | scalar held =>
      cases held with
      | @integer kind x => exact Or.inl ⟨kind, x, rfl⟩
      | @float precision x => exact Or.inr ⟨precision, x, rfl⟩
      | bool => cases number
      | string => cases number
      | bytes => cases number
      | timestamp => cases number
      | structured => cases number

theorem isNumber_of_isEqualTo {source : RawValue} {value : Int}
    (equal : source.isEqualTo value = true) : source.isNumber = true := by
  unfold isEqualTo at equal
  split at equal
  · rfl
  · rfl
  · cases equal

/-- A value is equal to one integer at most. -/
theorem eq_of_isEqualTo {source : RawValue} {first second : Int}
    (one : source.isEqualTo first = true) (other : source.isEqualTo second = true) :
    first = second := by
  rcases exists_of_isNumber (isNumber_of_isEqualTo one) with ⟨kind, x, rfl⟩ | ⟨precision, x, rfl⟩
  · exact (beq_iff_eq.mp one).symm.trans (beq_iff_eq.mp other)
  · have positive := twoTo_pos precision.format.unitExponent
    simp only [isEqualTo, Bool.and_eq_true, beq_iff_eq] at one other
    have same := one.2.symm.trans other.2
    exact Int.eq_of_mul_eq_mul_right (by omega) same

end RawValue

namespace Family

open RawValue (isNumber isEqualTo)

/-! ## Candidates -/

section Candidates

variable {kind : IntegerKind}

/-- An integer is looked up as it is. -/
theorem numberCandidate?_integer_eq_some_iff {own : IntegerKind} {x : BoundedInt own}
    {raw : Scalar (.integer kind)} :
    numberCandidate? (.scalar (.integer x)) (.integer kind) = some raw ↔
      ∃ fits : kind.Contains x.value, raw = .integer ⟨x.value, fits⟩ := by
  have candidate : numberCandidate? (.scalar (.integer x)) (.integer kind) =
      (coerce (.scalar (.integer x)) (.integer kind)).toOption := rfl
  rw [candidate, toOption_eq_some_iff, coerce_eq_ok_iff]
  constructor
  · rintro ⟨value, ⟨⟩, found⟩
    exact found
  · intro found
    exact ⟨x.value, .integer x, found⟩

/-- A float is looked up if it has no fraction, and then it is its whole part. -/
theorem numberCandidate?_float_eq_some_iff {precision : FloatKind}
    {x : BinaryFloat precision.format} {raw : Scalar (.integer kind)} :
    numberCandidate? (.scalar (.float x)) (.integer kind) = some raw ↔
      ∃ value, x.isFinite = true ∧ x.toUnits = value * (twoTo precision.format.unitExponent : Nat) ∧
        ∃ fits : kind.Contains value, raw = .integer ⟨value, fits⟩ := by
  have positive := twoTo_pos precision.format.unitExponent
  have candidate : numberCandidate? (.scalar (.float x)) (.integer kind) =
      if x.hasFraction then none else (coerce (.scalar (.float x)) (.integer kind)).toOption := by
    rw [numberCandidate?, Kind.isInteger, Bool.and_true]
  rw [candidate]
  cases fraction : x.hasFraction with
  | true =>
      constructor
      · rintro ⟨⟩
      · rintro ⟨value, finite, size, -⟩
        have whole := BinaryFloat.hasFraction_eq_false_iff.mpr
          ⟨finite, ⟨value, size.trans (Int.mul_comm _ _)⟩⟩
        exact absurd (fraction.symm.trans whole) (by decide)
  | false =>
      obtain ⟨finite, ⟨value, size⟩⟩ := BinaryFloat.hasFraction_eq_false_iff.mp fraction
      have whole : x.toUnits.tdiv (twoTo precision.format.unitExponent : Nat) = value := by
        rw [size]
        exact Int.mul_tdiv_cancel_left value (by omega)
      rw [if_neg Bool.false_ne_true, toOption_eq_some_iff, coerce_eq_ok_iff]
      constructor
      · rintro ⟨_, ⟨⟩, found⟩
        exact ⟨_, finite, by rw [whole, size, Int.mul_comm], found⟩
      · rintro ⟨other, -, size', found⟩
        have same : other = value := by
          rw [size, Int.mul_comm] at size'
          exact (Int.eq_of_mul_eq_mul_right (by omega) size').symm
        refine ⟨other, ?_, found⟩
        rw [same, ← whole]
        exact .float finite

/-- **A number is looked up by the integer that it is equal to, if this is in range.** -/
theorem numberCandidate?_eq_some_iff {input : RawValue} (number : input.isNumber = true)
    {raw : Scalar (.integer kind)} :
    numberCandidate? input (.integer kind) = some raw ↔
      ∃ value, input.isEqualTo value = true ∧
        ∃ fits : kind.Contains value, raw = .integer ⟨value, fits⟩ := by
  rcases RawValue.exists_of_isNumber number with ⟨own, x, rfl⟩ | ⟨precision, x, rfl⟩
  · simp [numberCandidate?_integer_eq_some_iff, isEqualTo]
  · simp [numberCandidate?_float_eq_some_iff, isEqualTo, and_assoc]

end Candidates

/-! ## Members -/

/-- The raw scalar of the member is equal to the number. -/
def isMemberFor {kind : Kind} (input : RawValue) (member : Member kind) : Bool :=
  member.raw.toInt?.any input.isEqualTo

section Members

variable {kind : IntegerKind} (typeName : String) (representation : Representation)
variable (insensitive : Bool) (members : List (Member (.integer kind)))

theorem findAny?_number {family : Family (.integer kind)} {input : RawValue}
    (number : input.isNumber = true) :
    family.findAny? input =
      .ok ((numberCandidate? input (.integer kind)).bind family.findByRaw?) := by
  rcases RawValue.exists_of_isNumber number with ⟨own, x, rfl⟩ | ⟨precision, x, rfl⟩
  · rfl
  · rfl

/-- The integer of a raw scalar is in the range of its kind. -/
theorem isMemberFor_iff {input : RawValue} {member : Member (.integer kind)} :
    isMemberFor input member = true ↔
      ∃ x : BoundedInt kind, member.raw = .integer x ∧ input.isEqualTo x.value = true := by
  obtain ⟨raw, name, aliases, isValid⟩ := member
  cases raw with
  | integer x => simp [isMemberFor, Scalar.toInt?]

/-- Among the members, being equal to the number is having the raw scalar that it is looked
up by. -/
theorem isMemberFor_eq_equal {input : RawValue} {value : Int} (fits : kind.Contains value)
    (same : input.isEqualTo value = true) :
    (isMemberFor input : Member (.integer kind) → Bool) =
      fun member => member.raw.equal (.integer ⟨value, fits⟩) := by
  funext member
  rw [Bool.eq_iff_iff, isMemberFor_iff]
  obtain ⟨raw, name, aliases, isValid⟩ := member
  cases raw with
  | integer x =>
      dsimp only [Scalar.equal]
      constructor
      · rintro ⟨_, ⟨⟩, equal⟩
        exact beq_iff_eq.mpr (RawValue.eq_of_isEqualTo equal same)
      · intro equal
        exact ⟨x, rfl, beq_iff_eq.mp equal ▸ same⟩

/-- **A number finds the first member that is equal to it.** The number may be an integer of
any width or a float, and it is never cut, wrapped or refused. If no integer of the kind is
equal to it, as with a number out of the range, then there is no member; and so if it is no
finite number or a fraction. -/
theorem findAny?_of_isNumber {input : RawValue} (number : input.isNumber = true) :
    let family := ofMembers typeName representation insensitive members
    family.findAny? input = .ok ((members.find? (isMemberFor input)).map (·.raw)) ∧
    ((∀ value, kind.Contains value → input.isEqualTo value = false) →
      family.findAny? input = .ok none) ∧
    ∀ (precision : FloatKind) (x : BinaryFloat precision.format), input = .scalar (.float x) →
      x.isFinite = false ∨ ¬((twoTo precision.format.unitExponent : Nat) : Int) ∣ x.toUnits →
        family.findAny? input = .ok none := by
  intro family
  have first : family.findAny? input = .ok ((members.find? (isMemberFor input)).map (·.raw)) := by
    rw [findAny?_number number]
    cases candidate : numberCandidate? input (.integer kind) with
    | none =>
        have missed : members.find? (isMemberFor input) = none := by
          refine List.find?_eq_none.mpr fun member _ equal => ?_
          obtain ⟨x, -, equal⟩ := isMemberFor_iff.mp equal
          have found := (numberCandidate?_eq_some_iff number).mpr ⟨x.value, equal, x.contains, rfl⟩
          exact Option.some_ne_none _ (found.symm.trans candidate)
        rw [missed]
        rfl
    | some raw =>
        obtain ⟨value, equal, fits, rfl⟩ := (numberCandidate?_eq_some_iff number).mp candidate
        rw [isMemberFor_eq_equal fits equal, Option.bind_some, findByRaw?_ofMembers,
          ← scanForRaw?_eq_firstSharing? rfl, scanForRaw?]
  have missed (foreign : ∀ value, kind.Contains value → input.isEqualTo value = false) :
      family.findAny? input = .ok none := by
    have none : members.find? (isMemberFor input) = none := by
      refine List.find?_eq_none.mpr fun member _ equal => ?_
      obtain ⟨x, -, equal⟩ := isMemberFor_iff.mp equal
      exact Bool.false_ne_true ((foreign x.value x.contains).symm.trans equal)
    rw [first, none]
    rfl
  refine ⟨first, missed, ?_⟩
  rintro precision x rfl strange
  refine missed fun value _ => Bool.eq_false_iff.mpr fun equal => ?_
  simp only [isEqualTo, Bool.and_eq_true, beq_iff_eq] at equal
  rcases strange with endless | fraction
  · exact Bool.false_ne_true (endless.symm.trans equal.1)
  · exact fraction ⟨value, equal.2.trans (Int.mul_comm _ _)⟩

/-- The float nearest to the largest integer of 64 bits is one above it and finds no member.
The integer itself does, from another width. -/
theorem findAny?_beyond_int64 :
    let most : BoundedInt .int64 := ⟨9223372036854775807, by decide⟩
    let nearest : RawValue := .scalar (@Scalar.float .double (.ofInt most.value))
    let wide : RawValue := .scalar (@Scalar.integer .uint64 ⟨9223372036854775807, by decide⟩)
    let family := ofMembers "Limit" .byValue false [⟨.integer most, "Most", [], true⟩]
    nearest.isNumber = true ∧ family.findAny? nearest = .ok none ∧
      wide.isNumber = true ∧ family.findAny? wide = .ok (some (.integer most)) := by
  intro most nearest wide family
  have number : nearest.isNumber = true := rfl
  have number' : wide.isNumber = true := rfl
  have found := (findAny?_of_isNumber "Limit" .byValue false
    [⟨Scalar.integer most, "Most", [], true⟩] number).1
  have found' := (findAny?_of_isNumber "Limit" .byValue false
    [⟨Scalar.integer most, "Most", [], true⟩] number').1
  have apart : isMemberFor nearest (⟨.integer most, "Most", [], true⟩ : Member (.integer .int64)) =
      false := by
    decide +kernel
  refine ⟨number, found.trans ?_, number', found'.trans rfl⟩
  rw [List.find?_cons_of_neg (Bool.eq_false_iff.mp apart)]
  rfl

end Members

end Family

end NamedConstants
