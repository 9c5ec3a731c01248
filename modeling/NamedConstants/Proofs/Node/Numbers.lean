import NamedConstants.Node.Document
import NamedConstants.Proofs.BinaryFloat.Narrowing
import NamedConstants.Proofs.Result

/-!
# Number nodes in numeric kinds

A document decodes into a kind directly where it can, and is converted where it cannot. For
integer kinds and for floats of 64 bits it makes no difference which of both is taken. A float of
32 bits is reached directly by one rounding, which also gives infinity, and by conversion through
64 bits and a check of the range. So the ways part for integers that the first of two roundings
moves across a midpoint, and for finite floats beyond the range of 32 bits
(`toScalar_agrees_iff`).
-/

set_option autoImplicit false

namespace NamedConstants

open BinaryFloat BinaryFormat

/-! ## Numbers -/

/-- A node that is a number. -/
inductive Node.IsNumber : Node → Prop
  | integer {kind : IntegerKind} (value : BoundedInt kind) : IsNumber (.integer value)
  | float {precision : FloatKind} (x : BinaryFloat precision.format) : IsNumber (.float x)

/-- A kind of numbers. -/
inductive Kind.IsNumeric : Kind → Prop
  | integer (kind : IntegerKind) : IsNumeric (.integer kind)
  | float (precision : FloatKind) : IsNumeric (.float precision)

/-- The node is an infinite float. -/
def Node.IsInfinite : Node → Prop
  | .float x => x.isInfinite = true
  | _ => False

/-- The node is a float of 64 bits that is rounded to infinity when it is narrowed. -/
def Node.LeavesSingle : Node → Prop
  | @Node.float .double x => x.LeavesSingle
  | _ => False

/-- The number of a node is not the same in a kind on both ways: an integer is moved across a
midpoint of floats of 32 bits when it is rounded to 64 bits, or a finite float exceeds the range of
32 bits. -/
def Node.Parts : Node → Kind → Prop
  | .integer value, .float .single =>
      MovesAcross single double 924 (value.value.natAbs * twoTo single.unitExponent) 1
  | @Node.float .double x, .float .single => x.ExceedsSingle
  | _, _ => False

/-! ## Sizes -/

section Sizes

variable {kind : IntegerKind}

theorem IntegerKind.natAbs_le {value : Int} (contained : kind.Contains value) :
    value.natAbs ≤ twoTo 64 := by
  have low : -(twoTo 64 : Nat) ≤ kind.minimum := by cases kind <;> decide
  have high : kind.maximum ≤ (twoTo 64 : Nat) := by cases kind <;> decide
  obtain ⟨least, most⟩ := contained
  omega

/-- An integer of a kind is small for a float. -/
theorem pattern_ofInt_le {format : BinaryFormat} (wide : 0 < format.fractionBits) {value : Int}
    (contained : kind.Contains value) :
    (ofInt value : BinaryFloat format).pattern ≤
      format.round (twoTo 64 * twoTo format.unitExponent) 1 := by
  rw [pattern_ofInt]
  exact round_le_round wide Nat.one_pos (Nat.mul_le_mul_right _ (kind.natAbs_le contained))

theorem isInfinite_ofInt {precision : FloatKind} {value : Int} (contained : kind.Contains value) :
    (ofInt value : BinaryFloat precision.format).isInfinite = false := by
  have small : precision.format.round (twoTo 64 * twoTo precision.format.unitExponent) 1 <
      precision.format.infinity := by cases precision <;> decide +kernel
  exact isInfinite_eq_false
    (Nat.lt_of_le_of_lt (pattern_ofInt_le precision.fractionBits_pos contained) small)

theorem not_exceedsSingle_ofInt {value : Int} (contained : kind.Contains value) :
    ¬(ofInt value : Double).ExceedsSingle := by
  have small : double.units (double.round (twoTo 64 * twoTo double.unitExponent) 1) ≤
      single.units (single.infinity - 1) * twoTo 925 := by decide +kernel
  rintro ⟨-, beyond⟩
  have wide : 0 < double.fractionBits := by decide
  have bounded := double.units_le_units (pattern_ofInt_le wide contained)
  exact Nat.not_lt.mpr (Nat.le_trans bounded small) beyond

end Sizes

/-! ## Both ways -/

section Ways

variable {node : Node} {kind : Kind}

/-- A node is decoded directly, or else converted. -/
theorem toOption_toScalar (node : Node) (kind : Kind) :
    ((Document.node node).toScalar kind).toOption =
      (node.decodeAs? kind).or (node.convertTo kind).toOption := by
  have direct : (Document.node node).decodeAs? kind = node.decodeAs? kind := rfl
  rw [Document.toScalar, direct]
  cases node.decodeAs? kind with
  | some scalar => rfl
  | none =>
      rw [Option.none_or]
      refine Option.ext fun scalar => ?_
      rw [toOption_eq_some_iff, toOption_eq_some_iff]
      exact mapError_eq_ok_iff

/-- A float is decoded into a float kind directly. -/
theorem toScalar_of_cast {own precision : FloatKind} {x : BinaryFloat own.format}
    {y : BinaryFloat precision.format} (rounded : x.cast = y) :
    (Document.node (.float x)).toScalar (.float precision) = .ok (.float y) := by
  subst rounded
  rfl

/-- What is not decoded directly is converted. -/
theorem agree_of_none (converted : node.decodeAs? kind = none) :
    ((Document.node node).toScalar kind).toOption = (node.convertTo kind).toOption := by
  rw [toOption_toScalar, converted, Option.none_or]

/-- The ways agree exactly if what is decoded directly is converted to the same. -/
theorem agree_iff_of_some {scalar : Scalar kind} (direct : node.decodeAs? kind = some scalar) :
    ((Document.node node).toScalar kind).toOption = (node.convertTo kind).toOption ↔
      (node.convertTo kind).toOption = some scalar := by
  rw [toOption_toScalar, direct, Option.some_or]
  exact eq_comm

/-- A number is decoded into a float kind by one rounding. -/
theorem decodeAs?_integer {own : IntegerKind} (value : BoundedInt own) (precision : FloatKind) :
    (Node.integer value).decodeAs? (.float precision) = some (.float (ofInt value.value)) := rfl

theorem decodeAs?_float {own : FloatKind} (x : BinaryFloat own.format) (precision : FloatKind) :
    (Node.float x).decodeAs? (.float precision) = some (.float x.cast) := rfl

/-- A number is narrowed from 64 bits on its way into a float kind. -/
theorem convertTo_integer {own : IntegerKind} (value : BoundedInt own) (precision : FloatKind) :
    (Node.integer value).convertTo (.float precision) = narrow (ofInt value.value) precision := rfl

theorem convertTo_integer_single {own : IntegerKind} (value : BoundedInt own) :
    ((Node.integer value).convertTo (.float .single)).toOption =
      some (@Scalar.float .single ((ofInt value.value : Double).cast : Single)) := by
  rw [convertTo_integer, narrow_single, if_neg (not_exceedsSingle_ofInt value.contains)]

theorem convertTo_float {own : FloatKind} (x : BinaryFloat own.format) (precision : FloatKind) :
    (Node.float x).convertTo (.float precision) = narrow x.cast precision := rfl

theorem convertTo_double_single (x : Double) :
    ((@Node.float .double x).convertTo (.float .single)).toOption =
      if x.ExceedsSingle then none else some (@Scalar.float .single (x.cast : Single)) :=
  (congrArg Except.toOption (@convertTo_float .double x .single)).trans (narrow_converted x)

/-- An integer is rounded twice on its way through 64 bits. -/
theorem cast_ofInt_iff (value : Int) :
    ((ofInt value : Double).cast : Single) = ofInt value ↔
      ¬MovesAcross single double 924 (value.natAbs * twoTo single.unitExponent) 1 := by
  have embeds : Embeds single double (924 + 1) := single_embeds_double
  have scaled : value.natAbs * twoTo double.unitExponent =
      value.natAbs * twoTo single.unitExponent * twoTo (924 + 1) := by
    rw [embeds.unit, twoTo_add, Nat.mul_assoc]
  rw [ofInt, ofInt, scaled]
  exact cast_ofRatio_eq_iff embeds (by decide) (by decide) _ Nat.one_pos

/-- The ways of an integer. -/
theorem integer_agrees_iff {own : IntegerKind} (value : BoundedInt own) (numeric : kind.IsNumeric) :
    ((Document.node (.integer value)).toScalar kind).toOption =
        ((Node.integer value).convertTo kind).toOption ↔ ¬(Node.integer value).Parts kind := by
  cases numeric with
  | integer kind =>
      have same : (Node.integer value).convertTo (.integer kind) =
        Scalar.ofInt kind value.value := rfl
      have direct : (Node.integer value).decodeAs? (.integer kind) =
          Scalar.ofInt? kind value.value := rfl
      refine iff_of_true ?_ id
      rw [toOption_toScalar, same, direct, Scalar.ofInt]
      cases Scalar.ofInt? kind value.value with
      | none => rfl
      | some scalar => rfl
  | float precision =>
      rw [agree_iff_of_some (decodeAs?_integer value precision)]
      cases precision with
      | single =>
          rw [convertTo_integer_single]
          exact Scalar.some_float_inj.trans (cast_ofInt_iff value.value)
      | double => exact iff_of_true rfl id

/-- The ways of a float. -/
theorem float_agrees_iff {own : FloatKind} (x : BinaryFloat own.format) (numeric : kind.IsNumeric) :
    ((Document.node (.float x)).toScalar kind).toOption =
        ((Node.float x).convertTo kind).toOption ↔ ¬(Node.float x).Parts kind := by
  cases numeric with
  | integer kind =>
      cases own with
      | single => exact iff_of_true (agree_of_none rfl) id
      | double => exact iff_of_true (agree_of_none rfl) id
  | float precision =>
      rw [agree_iff_of_some (decodeAs?_float x precision)]
      cases precision with
      | double =>
          cases own with
          | single => exact iff_of_true rfl id
          | double => exact iff_of_true rfl id
      | single =>
          cases own with
          | single =>
              rw [convertTo_float]
              exact iff_of_true (narrow_widened x) id
          | double =>
              have converted := convertTo_double_single x
              by_cases exceeds : BinaryFloat.ExceedsSingle x
              · rw [if_pos exceeds] at converted
                exact iff_of_false (fun found => by cases converted.symm.trans found)
                  (not_not_intro exceeds)
              · rw [if_neg exceeds] at converted
                exact iff_of_true converted exceeds

/-! ## Infinity -/

/-- A number is converted to infinity only if it is infinite. -/
theorem isInfinite_of_convertTo (number : node.IsNumber) {precision : FloatKind}
    {y : BinaryFloat precision.format}
    (converted : node.convertTo (.float precision) = .ok (.float y)) :
    y.isInfinite = true ↔ node.IsInfinite := by
  cases number with
  | integer value =>
      have finite : (ofInt value.value : Double).isInfinite = false :=
        @isInfinite_ofInt _ .double _ value.contains
      rw [isInfinite_of_narrow converted, finite]
      exact iff_of_false Bool.false_ne_true id
  | @float own x =>
      obtain ⟨shift, embeds⟩ := own.embeds_double
      rw [isInfinite_of_narrow converted, isInfinite_cast embeds own.fractionBits_pos]
      exact Iff.rfl

/-- A number is decoded as infinity if it is infinite or is rounded to it. -/
theorem isInfinite_of_toScalar (number : node.IsNumber) {precision : FloatKind}
    {y : BinaryFloat precision.format}
    (decoded : (Document.node node).toScalar (.float precision) = .ok (.float y)) :
    y.isInfinite = true ↔ node.IsInfinite ∨ precision = .single ∧ node.LeavesSingle := by
  cases number with
  | integer value =>
      cases decoded
      rw [isInfinite_ofInt value.contains]
      exact iff_of_false Bool.false_ne_true fun either => either.elim id And.right
  | @float own x =>
      cases decoded
      cases precision with
      | double =>
          obtain ⟨shift, embeds⟩ := own.embeds_double
          have same : (x.cast : Double).isInfinite = x.isInfinite :=
            isInfinite_cast embeds own.fractionBits_pos x
          exact (Bool.eq_iff_iff.mp same).trans
            (or_iff_left fun other => absurd other.1 (by decide)).symm
      | single =>
          cases own with
          | single =>
              have same : (x.cast : Single).isInfinite = x.isInfinite :=
                isInfinite_cast (embeds_self single) (by decide) x
              exact (Bool.eq_iff_iff.mp same).trans (or_iff_left And.right).symm
          | double =>
              exact (isInfinite_cast_iff x).trans
                (or_congr_right (and_iff_right rfl).symm)

/-- **The two ways of a number.** It is decoded as it is converted exactly if the ways do not
part. Conversion gives infinity for infinity only, and direct decoding also for a finite float
of 64 bits that is rounded beyond the range of 32 bits. -/
theorem toScalar_agrees_iff (number : node.IsNumber) (numeric : kind.IsNumeric) :
    (((Document.node node).toScalar kind).toOption = (node.convertTo kind).toOption ↔
      ¬node.Parts kind) ∧
    ∀ (precision : FloatKind) (y : BinaryFloat precision.format),
      (node.convertTo (.float precision) = .ok (.float y) →
        (y.isInfinite = true ↔ node.IsInfinite)) ∧
      ((Document.node node).toScalar (.float precision) = .ok (.float y) →
        (y.isInfinite = true ↔ node.IsInfinite ∨ precision = .single ∧ node.LeavesSingle)) := by
  refine ⟨?_, fun precision y => ⟨isInfinite_of_convertTo number, isInfinite_of_toScalar number⟩⟩
  cases number with
  | integer value => exact integer_agrees_iff value numeric
  | float x => exact float_agrees_iff x numeric

/-- One more than a midpoint of floats of 32 bits is moved across it. -/
theorem parts_of_aboveMidpoint :
    (@Node.integer .int64 ⟨1152921573326323713, by decide⟩).IsNumber ∧
      (Kind.float .single).IsNumeric ∧
      (@Node.integer .int64 ⟨1152921573326323713, by decide⟩).Parts (.float .single) := by
  obtain ⟨value, own⟩ : ∃ value : BoundedInt .int64, value = ⟨1152921573326323713, by decide⟩ :=
    ⟨_, rfl⟩
  have other : ((ofInt value.value : Double).cast : Single) ≠ ofInt value.value := by
    rw [own]
    decide +kernel
  rw [← own]
  refine ⟨.integer value, .float .single, Classical.byContradiction fun clear => ?_⟩
  have same := (toScalar_agrees_iff (.integer value) (.float .single)).1.mpr clear
  rw [agree_iff_of_some (decodeAs?_integer value .single), convertTo_integer_single] at same
  exact other (Scalar.some_float_inj.mp same)

/-- The float of 64 bits nearest to `10 ^ 300` is decoded as infinity and not converted. -/
theorem decoded_as_infinity :
    (Document.node (@Node.float .double (ofBits 0x7e37e43c8800759c))).toScalar (.float .single) =
        .ok (@Scalar.float .single (infinity false)) ∧
      ((@Node.float .double (ofBits 0x7e37e43c8800759c)).convertTo (.float .single)).toOption =
        none := by
  have rounded : ((ofBits 0x7e37e43c8800759c : Double).cast : Single) = infinity false := by
    decide +kernel
  have exceeds : (ofBits 0x7e37e43c8800759c : Double).ExceedsSingle := by decide +kernel
  exact ⟨@toScalar_of_cast .double .single _ _ rounded,
    (convertTo_double_single _).trans (if_pos exceeds)⟩

end Ways

end NamedConstants
