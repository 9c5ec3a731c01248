import NamedConstants.Proofs.BinaryFloat.Narrowing
import NamedConstants.Proofs.BinaryFloat.Reading
import NamedConstants.Proofs.Text.Blank
import NamedConstants.Proofs.Text.Letter

/-!
# Floats from text on two ways

A text is decoded as a float by one rounding of the decimal that it spells, and a decimal beyond
the range is refused. It is scanned as a float of 64 bits and narrowed. The results agree unless
the decimal strays (`coerce_text_agrees_iff`): a decimal that is rounded to infinity at 64 bits is
scanned as infinity, one that exceeds the largest number of 32 bits a little is refused although
it is rounded to this number, and one that is moved across a midpoint is scanned as a
neighbour. The shortest decimals of 64 bits never stray, those of 32 bits may.
-/

set_option autoImplicit false

namespace NamedConstants

open BinaryFloat BinaryFormat

/-! ## Decimals that stray -/

/-- The decimal is scanned otherwise than it is decoded: its nearest float of 64 bits is infinite,
or it exceeds the finite numbers of 32 bits although the nearest one of 32 bits is one of them, or
it is moved across a midpoint of floats of 32 bits. -/
def Decimal.Strays (decimal : Decimal) : FloatKind → Prop
  | .double => decimal.nearest double = double.infinity
  | .single =>
      decimal.nearest double = double.infinity ∨
      (ofPattern false (decimal.nearest double) : Double).ExceedsSingle ∧
        decimal.nearest single ≠ single.infinity ∨
      MovesAcross single double 924 (decimal.units single) (tenTo (-decimal.exponent).toNat)

theorem Decimal.strays_spelled (decimal : Decimal) (kind : FloatKind) :
    decimal.spelled.Strays kind ↔ decimal.Strays kind := by
  cases kind <;> simp only [Strays, nearest_spelled, units_spelled, places_spelled]

namespace BinaryFloat.Spelling

/-- The float nearest to what a text says, if it is finite or infinity is what the text says. -/
def inRange (kind : FloatKind) : Spelling → Option (Scalar (.float kind))
  | decimal negative size =>
      if size.nearest kind.format = kind.format.infinity then none
      else some (.float (ofPattern negative (size.nearest kind.format)))
  | infinity negative => some (.float (BinaryFloat.infinity negative))
  | notANumber negative => some (.float (BinaryFloat.notANumber negative))

end BinaryFloat.Spelling

/-! ## Both ways -/

/-- A text is scanned as what it says, narrowed from 64 bits. -/
theorem toOption_coerce (text : String) (kind : FloatKind) :
    (coerce (.scalar (.string text)) (.float kind)).toOption =
      (spelling? (Text.trim text.toList)).bind fun spelled =>
        (narrow (spelled.nearest double) kind).toOption := by
  have wide : 0 < double.fractionBits := by decide
  have read := toOption_ofText wide (Text.trim text.toList)
  have way : coerce (.scalar (.string text)) (.float kind) =
      (Scalar.orUnreadable text (.float kind)
        ((ofText (Text.trim text.toList)).mapError Scalar.floatReason)) >>=
          fun x => narrow x kind := rfl
  rw [way, toOption_bind, Scalar.orUnreadable, toOption_mapError, toOption_mapError, read]
  cases spelling? (Text.trim text.toList) with
  | none => rfl
  | some spelled => rfl

/-! ## Infinity and what exceeds the range -/

section Sign

variable {text : List Char} {said : Spelling}

/-- A sign may stand in front of what a text says. -/
theorem exists_unsigned (spelled : spelling? text = some said) :
    ∃ negative rest, Spelling.unsigned? negative rest = some said ∧
      (text = rest ∨ text = '-' :: rest ∨ text = '+' :: rest) := by
  unfold spelling? at spelled
  split at spelled
  · exact ⟨true, _, spelled, Or.inr (Or.inl rfl)⟩
  · exact ⟨false, _, spelled, Or.inr (Or.inr rfl)⟩
  · exact ⟨false, _, spelled, Or.inl rfl⟩

/-- Behind the sign, a text is compared with the name of infinity. -/
theorem spellsInfinity_eq {c : Char} {rest : List Char} (minus : c ≠ '-') (plus : c ≠ '+')
    (signed : text = c :: rest ∨ text = '-' :: c :: rest ∨ text = '+' :: c :: rest) :
    Scalar.spellsInfinity text = "inf".toList.isPrefixOf ((c :: rest).map Char.toLower) := by
  have other : (c == '+' || c == '-') = false :=
    Bool.or_eq_false_iff.mpr ⟨beq_eq_false_iff_ne.mpr plus, beq_eq_false_iff_ne.mpr minus⟩
  have here : (c :: rest).dropWhile (fun c => c == '+' || c == '-') = c :: rest :=
    List.dropWhile_cons_of_neg (Bool.eq_false_iff.mp other)
  rcases signed with rfl | rfl | rfl
  · rw [Scalar.spellsInfinity, here]
  · rw [Scalar.spellsInfinity, List.dropWhile_cons_of_pos (by decide), here]
  · rw [Scalar.spellsInfinity, List.dropWhile_cons_of_pos (by decide), here]

/-- A number starts neither with a sign nor with the name of infinity. -/
theorem start_of_number {c : Char} (start : c.isDigit = true ∨ c = '.') :
    c ≠ '-' ∧ c ≠ '+' ∧ c.toLower ≠ 'i' := by
  rcases start with digit | rfl
  · exact Text.of_ascii
      (motive := fun c => c.isDigit = true → c ≠ '-' ∧ c ≠ '+' ∧ c.toLower ≠ 'i')
      (by decide +kernel) (Text.ascii_of_isDigit digit) digit
  · decide

/-- The name of infinity is not the text of a number beyond the range. -/
theorem spellsInfinity_of_infinity {negative : Bool}
    (spelled : spelling? text = some (.infinity negative)) :
    Scalar.spellsInfinity text = true := by
  obtain ⟨sign, rest, unsigned, signed⟩ := exists_unsigned spelled
  rw [Spelling.unsigned?] at unsigned
  split at unsigned
  · cases unsigned
  · dsimp only at unsigned
    split at unsigned
    · rename_i name
      have lower : rest.map Char.toLower = "inf".toList ∨
          rest.map Char.toLower = "infinity".toList := by simpa using name
      obtain ⟨c, tail, rfl⟩ : ∃ c tail, rest = c :: tail := by
        refine List.exists_cons_of_ne_nil ?_
        rintro rfl
        exact absurd lower (by decide)
      have first : c.toLower = 'i' := by
        rcases lower with short | long
        · exact (List.cons.inj short).1
        · exact (List.cons.inj long).1
      have minus : c ≠ '-' := fun same => absurd (same ▸ first) (by decide)
      have plus : c ≠ '+' := fun same => absurd (same ▸ first) (by decide)
      rw [spellsInfinity_eq minus plus signed]
      rcases lower with short | long
      · rw [short]
        decide
      · rw [long]
        decide
    · split at unsigned
      · cases unsigned
      · cases unsigned

/-- A number is not the name of infinity. -/
theorem spellsInfinity_of_decimal {negative : Bool} {size : Decimal}
    (spelled : spelling? text = some (.decimal negative size)) :
    Scalar.spellsInfinity text = false := by
  obtain ⟨sign, rest, unsigned, signed⟩ := exists_unsigned spelled
  rw [Spelling.unsigned?] at unsigned
  split at unsigned
  · rename_i read
    obtain ⟨c, tail, rfl, start⟩ := head_of_decimal? read
    obtain ⟨minus, plus, letter⟩ := start_of_number start
    rw [spellsInfinity_eq minus plus signed]
    exact Bool.and_eq_false_iff.mpr (Or.inl (beq_eq_false_iff_ne.mpr (Ne.symm letter)))
  · dsimp only at unsigned
    split at unsigned
    · cases unsigned
    · split at unsigned
      · cases unsigned
      · cases unsigned

end Sign

/-- A text is decoded as what it says, if it does not exceed the range. -/
theorem toOption_floatOfText (kind : FloatKind) (text : List Char) :
    (Scalar.floatOfText kind text).toOption =
      (spelling? text).bind fun spelled => spelled.inRange kind := by
  have read := toOption_ofText kind.fractionBits_pos text
  have way : Scalar.floatOfText kind text =
      (ofText text : Except TextFault (BinaryFloat kind.format)).mapError Scalar.floatReason >>=
        fun x => if x.isInfinite && !Scalar.spellsInfinity text then .error .outOfRange
          else .ok (.float x) := by
    rw [Scalar.floatOfText]
    cases (ofText text : Except TextFault (BinaryFloat kind.format)) with
    | error fault => rfl
    | ok x => rfl
  rw [way, toOption_bind, toOption_mapError, read, Option.bind_map]
  cases spelled : spelling? text with
  | none => rfl
  | some said =>
      rw [Option.bind_some, Option.bind_some, Function.comp_apply]
      cases said with
      | decimal negative size =>
          rw [spellsInfinity_of_decimal spelled]
          have infinite := isInfinite_ofPattern
            (kind.format.round_le_infinity (size.units kind.format)
              (tenTo (-size.exponent).toNat)) negative
          rw [← Decimal.nearest] at infinite
          rw [Spelling.nearest, Spelling.inRange]
          by_cases beyond : size.nearest kind.format = kind.format.infinity
          · rw [if_pos beyond, infinite.mpr beyond]
            rfl
          · rw [if_neg beyond, Bool.eq_false_iff.mpr (mt infinite.mp beyond)]
            rfl
      | infinity negative =>
          rw [spellsInfinity_of_infinity spelled, Bool.not_true, Bool.and_false]
          rfl
      | notANumber negative =>
          have quiet := isNaN_notANumber kind.fractionBits_pos negative
          rw [Spelling.nearest, isInfinite_of_isNaN quiet, Bool.false_and]
          rfl

/-! ## Where the ways part -/

section Decimals

variable (size : Decimal) (negative : Bool)

/-- The nearest float of 64 bits is rounded to one of 32 bits. -/
theorem cast_nearest :
    ((ofPattern negative (size.nearest double) : Double).cast : Single) =
      ofPattern negative (single.round (double.units (size.nearest double)) (twoTo (924 + 1))) := by
  have embeds : Embeds single double (924 + 1) := single_embeds_double
  exact cast_ofPattern embeds (by decide) (double.round_le_infinity _ _) negative

/-- Two roundings of a decimal differ from one exactly where it is moved across a midpoint. -/
theorem round_nearest_iff :
    single.round (double.units (size.nearest double)) (twoTo (924 + 1)) = size.nearest single ↔
      ¬MovesAcross single double 924 (size.units single) (tenTo (-size.exponent).toNat) := by
  have embeds : Embeds single double (924 + 1) := single_embeds_double
  rw [Decimal.nearest, Decimal.nearest, size.units_of_embeds embeds]
  exact round_round_eq_iff embeds (by decide) (by decide) (tenTo_pos _)

theorem nearest_le_infinity (format : BinaryFormat) : size.nearest format ≤ format.infinity :=
  format.round_le_infinity _ _

/-- A decimal that exceeds the range after it was moved across a midpoint was moved from below. -/
theorem nearest_ne_infinity
    (exceeds : single.units (single.infinity - 1) * twoTo 925 < double.units (size.nearest double))
    (moved : MovesAcross single double 924 (size.units single) (tenTo (-size.exponent).toNat)) :
    size.nearest single ≠ single.infinity := by
  have embeds : Embeds single double (924 + 1) := single_embeds_double
  have unit : twoTo 925 = 2 * twoTo 924 := by decide +kernel
  obtain ⟨pattern, finite, onto, side⟩ := moved
  rw [← size.units_of_embeds embeds, ← Decimal.nearest] at onto
  have last : pattern = single.infinity - 1 := by
    refine Nat.le_antisymm (Nat.le_sub_one_of_lt finite) (Nat.le_of_not_lt fun earlier => ?_)
    have first := single.units_le_units (Nat.le_of_lt earlier)
    have next := single.units_le_units (Nat.succ_le_of_lt earlier)
    rw [Nat.succ_eq_add_one] at next
    have within : single.middle pattern ≤ 2 * single.units (single.infinity - 1) := by
      rw [middle]
      omega
    have bounded := Nat.mul_le_mul_right (twoTo 924) within
    rw [onto, unit, Nat.mul_left_comm, ← Nat.mul_assoc] at exceeds
    exact Nat.not_lt.mpr bounded exceeds
  have odd : ¬pattern % 2 = 0 := by
    rw [last]
    decide
  rw [if_neg odd] at side
  have within := round_le_of_lt_middle (by decide) (tenTo_pos _) side
  exact Nat.ne_of_lt (Nat.lt_of_le_of_lt within finite)

/-- A decimal that does not exceed the range is rounded twice to a finite number. -/
theorem round_nearest_lt
    (within : double.units (size.nearest double) ≤ single.units (single.infinity - 1) * twoTo 925) :
    single.round (double.units (size.nearest double)) (twoTo (924 + 1)) < single.infinity := by
  have largest : single.infinity - 1 < single.infinity := by decide
  have wide : 0 < single.fractionBits := by decide
  rw [show (925 : Nat) = 924 + 1 from rfl] at within
  exact Nat.lt_of_le_of_lt (round_le_of_le wide (twoTo_pos _) within) largest

end Decimals

/-- What is infinite in 64 bits is scanned as infinity, and is not decoded so. -/
theorem narrow_single_of_infinite {size : Decimal}
    (infinite : size.nearest double = double.infinity) (negative : Bool) :
    (narrow (ofPattern negative (size.nearest double)) .single).toOption ≠
      if size.nearest single = single.infinity then none
      else some (@Scalar.float .single (ofPattern negative (size.nearest single) : Single)) := by
  have exceedsSingle := exceedsSingle_ofPattern (nearest_le_infinity size double) negative
  have embeds : Embeds single double (924 + 1) := single_embeds_double
  have wide : 0 < single.fractionBits := by decide
  rw [narrow_single, cast_nearest,
    if_neg (mt exceedsSingle.mp fun both => Nat.ne_of_lt both.1 infinite), infinite]
  split
  · exact fun found => by cases found
  · rename_i near
    intro found
    have same := (ofPattern_inj (single.round_le_infinity _ _) (nearest_le_infinity size single)).mp
      (Scalar.some_float_inj.mp found)
    exact near (same.symm.trans (round_eq_infinity wide (twoTo_pos _) embeds.range))

/-- In 32 bits, the range is compared after the first rounding. -/
theorem narrow_single_eq_iff (size : Decimal) (negative : Bool) :
    (narrow (ofPattern negative (size.nearest double)) .single).toOption =
      (if size.nearest single = single.infinity then none
        else some (@Scalar.float .single (ofPattern negative (size.nearest single) : Single))) ↔
      ¬size.Strays .single := by
  rcases Nat.lt_or_eq_of_le (nearest_le_infinity size double) with finite | infinite
  · have exceedsSingle := exceedsSingle_ofPattern (nearest_le_infinity size double)
    have other := Nat.ne_of_lt finite
    rw [narrow_single, cast_nearest]
    by_cases exceeds : single.units (single.infinity - 1) * twoTo 925 <
        double.units (size.nearest double)
    · have beyond := (exceedsSingle false).mpr ⟨finite, exceeds⟩
      rw [if_pos ((exceedsSingle negative).mpr ⟨finite, exceeds⟩)]
      split
      · rename_i infinite
        refine iff_of_true rfl ?_
        rintro (far | ⟨-, near⟩ | moved)
        · exact other far
        · exact near infinite
        · exact nearest_ne_infinity size exceeds moved infinite
      · rename_i near
        exact iff_of_false (fun found => by cases found)
          (not_not_intro (Or.inr (Or.inl ⟨beyond, near⟩)))
    · have within := Nat.not_lt.mp exceeds
      have strays : size.Strays .single ↔
          MovesAcross single double 924 (size.units single) (tenTo (-size.exponent).toNat) :=
        (or_iff_right other).trans
          (or_iff_right fun both => exceeds ((exceedsSingle false).mp both.1).2)
      have rounded := round_nearest_lt size within
      rw [if_neg (mt (exceedsSingle negative).mp fun both => exceeds both.2), strays,
        ← round_nearest_iff size]
      split
      · rename_i infinite
        rw [infinite]
        exact iff_of_false (fun found => by cases found) (Nat.ne_of_lt rounded)
      · exact Scalar.some_float_inj.trans
          (ofPattern_inj (Nat.le_of_lt rounded) (nearest_le_infinity size single))
  · have strays : size.Strays .single := Or.inl infinite
    exact iff_of_false (narrow_single_of_infinite infinite negative) (not_not_intro strays)

/-- **A decimal is scanned as it is decoded unless it strays.** -/
theorem narrow_eq_inRange_iff (size : Decimal) (negative : Bool) (kind : FloatKind) :
    (narrow ((Spelling.decimal negative size).nearest double) kind).toOption =
      (Spelling.decimal negative size).inRange kind ↔ ¬size.Strays kind := by
  cases kind with
  | single => exact narrow_single_eq_iff size negative
  | double =>
      rw [Spelling.nearest, Spelling.inRange]
      split
      · rename_i infinite
        exact iff_of_false (fun found => by cases found) (not_not_intro infinite)
      · rename_i finite
        exact iff_of_true rfl finite

/-- Zero does not stray. -/
theorem not_strays_of_zero {size : Decimal} (zero : size.digits = 0) (kind : FloatKind) :
    ¬size.Strays kind := by
  have wide : 0 < double.fractionBits := by decide
  have nearest := nearest_of_zero wide zero
  cases kind with
  | double =>
      rw [Decimal.Strays, nearest]
      decide
  | single =>
      rintro (far | ⟨exceeds, -⟩ | ⟨pattern, -, moved, -⟩)
      · exact absurd (nearest.symm.trans far) (by decide)
      · rw [nearest] at exceeds
        exact absurd exceeds (by decide +kernel)
      · have embeds : Embeds single double (924 + 1) := single_embeds_double
        have positive := single.units_pos (Nat.succ_pos pattern)
        rw [← size.units_of_embeds embeds, ← Decimal.nearest, nearest, units_zero] at moved
        have grown := Nat.mul_pos (Nat.add_pos_right (single.units pattern) positive)
          (twoTo_pos 924)
        exact absurd moved (Nat.ne_of_lt grown)

/-- The decimals of finite floats of 64 bits do not stray. -/
theorem not_strays_written {x : Double} (finite : x.isFinite = true) :
    ¬x.written.Strays .double := by
  rw [Decimal.Strays, nearest_written (by decide) finite]
  exact Nat.ne_of_lt (of_decide_eq_true finite)

/-! ## Texts -/

section Texts

variable {kind : FloatKind}

/-- Infinity is narrowed to infinity. -/
theorem narrow_infinity (negative : Bool) :
    (narrow (infinity negative) kind).toOption = some (.float (infinity negative)) := by
  cases kind with
  | double => rfl
  | single =>
      have within : ¬(infinity negative : Double).ExceedsSingle := fun exceeds =>
        Nat.ne_of_lt exceeds.1 (pattern_infinity negative)
      rw [narrow_single, if_neg within, cast_infinity]
      rfl

/-- What is not a number is narrowed to what is none. -/
theorem narrow_notANumber (negative : Bool) :
    (narrow (notANumber negative) kind).toOption = some (.float (notANumber negative)) := by
  cases kind with
  | double => rfl
  | single =>
      have quiet : (notANumber negative : Double).isNaN = true := isNaN_notANumber (by decide) _
      have within : ¬(notANumber negative : Double).ExceedsSingle := fun exceeds =>
        Nat.lt_asymm exceeds.1 (of_decide_eq_true quiet)
      rw [narrow_single, if_neg within, cast_of_isNaN quiet]
      rfl

/-- The text form of a finite float has no blanks. -/
theorem trim_toText {x : BinaryFloat kind.format} (finite : x.isFinite = true) :
    Text.trim x.toText = x.toText := by
  have number {c : Char} (own : c ∈ x.written.positional) : Text.isBlank c = false := by
    rcases x.written.isDigit_or_point_of_mem_positional own with digit | rfl
    · exact Text.isBlank_of_isDigit digit
    · decide
  have visible : ∀ c ∈ x.toText, Text.isBlank c = false := by
    intro c own
    rw [toText_of_isFinite finite] at own
    split at own
    · rcases List.mem_cons.mp own with rfl | behind
      · decide
      · exact number behind
    · exact number own
  have trimmed := @Text.trim_padded [] x.toText [] (by simp) (by simp) visible
  rwa [List.nil_append, List.append_nil] at trimmed

/-- A finite float is decoded from its text form. -/
theorem ofText_toText_float {x : BinaryFloat kind.format} (finite : x.isFinite = true) :
    Scalar.ofText (Scalar.float x).toText (.float kind) = .ok (.float x) := by
  refine toOption_eq_some_iff.mp ?_
  rw [Scalar.ofText, Scalar.orUnreadable, toOption_mapError, Scalar.toText, String.toList_ofList,
    Scalar.writeText, toOption_floatOfText, spelling?_toText finite, Option.bind_some,
    Spelling.inRange, Decimal.nearest_spelled, nearest_written kind.fractionBits_pos finite,
    if_neg (Nat.ne_of_lt (of_decide_eq_true finite)), x.ofPattern_pattern]

/-- The ways of a text. -/
theorem agree_iff_not_strays (text : String) (kind : FloatKind) :
    (coerce (.scalar (.string text)) (.float kind)).toOption =
        (Scalar.ofText (String.ofList (Text.trim text.toList)) (.float kind)).toOption ↔
      ∀ negative size, spelling? (Text.trim text.toList) = some (.decimal negative size) →
        ¬size.Strays kind := by
  rw [toOption_coerce, Scalar.ofText, Scalar.orUnreadable, toOption_mapError, String.toList_ofList,
    toOption_floatOfText]
  cases spelling? (Text.trim text.toList) with
  | none => exact iff_of_true rfl fun _ _ said => by cases said
  | some said =>
      rw [Option.bind_some, Option.bind_some]
      cases said with
      | infinity negative =>
          exact iff_of_true (narrow_infinity negative) fun _ _ said => by cases said
      | notANumber negative =>
          exact iff_of_true (narrow_notANumber negative) fun _ _ said => by cases said
      | decimal negative size =>
          rw [narrow_eq_inRange_iff]
          constructor
          · rintro clear _ _ ⟨⟩
            exact clear
          · intro clear
            exact clear negative size rfl

/-- What a text is scanned as is infinite as it is in 64 bits. -/
theorem isInfinite_of_coerce {text : String} {y : BinaryFloat kind.format}
    (scanned : coerce (.scalar (.string text)) (.float kind) = .ok (.float y)) :
    y.isInfinite = true ↔ ∃ negative,
      spelling? (Text.trim text.toList) = some (.infinity negative) ∨
      ∃ size, spelling? (Text.trim text.toList) = some (.decimal negative size) ∧
        size.nearest double = double.infinity := by
  have found := toOption_eq_some_iff.mpr scanned
  rw [toOption_coerce, Option.bind_eq_some_iff] at found
  obtain ⟨said, spelled, narrowed⟩ := found
  rw [isInfinite_of_narrow (toOption_eq_some_iff.mp narrowed), spelled]
  cases said with
  | infinity negative =>
      exact iff_of_true (isInfinite_infinity negative) ⟨negative, Or.inl rfl⟩
  | notANumber negative =>
      have quiet : (notANumber negative : Double).isNaN = true := isNaN_notANumber (by decide) _
      rw [Spelling.nearest, isInfinite_of_isNaN quiet]
      refine iff_of_false Bool.false_ne_true ?_
      rintro ⟨_, ⟨⟨⟩⟩ | ⟨_, ⟨⟩, -⟩⟩
  | decimal negative size =>
      rw [Spelling.nearest, isInfinite_ofPattern (nearest_le_infinity size double)]
      constructor
      · intro far
        exact ⟨negative, Or.inr ⟨size, rfl, far⟩⟩
      · rintro ⟨_, ⟨⟨⟩⟩ | ⟨_, ⟨⟩, far⟩⟩
        exact far

end Texts

/-- **Scanning and decoding a text as a float.** They agree exactly if the text spells no decimal
that strays. What is scanned is infinite exactly if the text says infinity or a decimal that is
rounded to infinity at 64 bits. The text form of a finite float is decoded as this float and
scanned as this float exactly if its decimal does not stray, so always for zero and for floats of
64 bits. -/
theorem coerce_text_agrees_iff (text : String) (kind : FloatKind) :
    let trimmed := Text.trim text.toList
    let scanned := coerce (.scalar (.string text)) (.float kind)
    (scanned.toOption = (Scalar.ofText (String.ofList trimmed) (.float kind)).toOption ↔
      ∀ negative size, spelling? trimmed = some (.decimal negative size) → ¬size.Strays kind) ∧
    (∀ y : BinaryFloat kind.format, scanned = .ok (.float y) →
      (y.isInfinite = true ↔ ∃ negative, spelling? trimmed = some (.infinity negative) ∨
        ∃ size, spelling? trimmed = some (.decimal negative size) ∧
          size.nearest double = double.infinity)) ∧
    ∀ x : BinaryFloat kind.format, x.isFinite = true → text = (Scalar.float x).toText →
      Scalar.ofText text (.float kind) = .ok (.float x) ∧
      (scanned = .ok (.float x) ↔ ¬x.written.Strays kind) ∧
      (x.isZero = true ∨ kind = .double → scanned = .ok (.float x)) := by
  intro trimmed scanned
  have agrees := agree_iff_not_strays text kind
  refine ⟨agrees, fun y => isInfinite_of_coerce, fun x finite own => ?_⟩
  have decoded := ofText_toText_float finite
  have whole : Text.trim text.toList = x.toText := by
    rw [own, Scalar.toText, String.toList_ofList, Scalar.writeText, trim_toText finite]
  have back : scanned = .ok (.float x) ↔ ¬x.written.Strays kind := by
    have same : (Scalar.ofText (String.ofList x.toText) (.float kind)).toOption = some (.float x) :=
      toOption_eq_some_iff.mpr decoded
    rw [whole, same, spelling?_toText finite] at agrees
    refine toOption_eq_some_iff.symm.trans (agrees.trans ?_)
    rw [← x.written.strays_spelled kind]
    constructor
    · intro clear
      exact clear x.negative x.written.spelled rfl
    · rintro clear _ _ ⟨⟩
      exact clear
  refine ⟨own ▸ decoded, back, fun either => back.mpr ?_⟩
  rcases either with zero | rfl
  · refine not_strays_of_zero ?_ kind
    rw [written, if_pos zero]
  · exact not_strays_written finite

/-- `1e400` is scanned as infinity and not decoded, and the largest float of 32 bits is not scanned
from its text form. -/
theorem scanned_beyond_range :
    (coerce (.scalar (.string "1e400")) (.float .double)).toOption =
        some (@Scalar.float .double (infinity false)) ∧
      (Scalar.ofText "1e400" (.float .double)).toOption = none ∧
      (@Scalar.float .single largest).toText = "340282350000000000000000000000000000000" ∧
      (coerce (.scalar (.string "340282350000000000000000000000000000000"))
        (.float .single)).toOption = none := by
  have said : spelling? (Text.trim "1e400".toList) = some (.decimal false ⟨1, 400⟩) := by
    decide +kernel
  have far : Decimal.nearest double ⟨1, 400⟩ = double.infinity := by decide +kernel
  refine ⟨?_, ?_, by decide +kernel, ?_⟩
  · rw [toOption_coerce, said, Option.bind_some, Spelling.nearest, far]
    exact narrow_infinity false
  · have trimmed : Text.trim "1e400".toList = "1e400".toList := by decide +kernel
    rw [trimmed] at said
    rw [Scalar.ofText, Scalar.orUnreadable, toOption_mapError, toOption_floatOfText, said]
    generalize (⟨1, 400⟩ : Decimal) = size at far
    exact if_pos far
  · have said' : spelling? (Text.trim "340282350000000000000000000000000000000".toList) =
        some (.decimal false ⟨340282350000000000000000000000000000000, 0⟩) := by decide +kernel
    have exceeds : (ofPattern false (Decimal.nearest double
        ⟨340282350000000000000000000000000000000, 0⟩) : Double).ExceedsSingle := by decide +kernel
    rw [toOption_coerce, said', Option.bind_some, Spelling.nearest, narrow_single, if_pos exceeds]

end NamedConstants
