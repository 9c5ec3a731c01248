import NamedConstants.Proofs.BinaryFloat.Truncation
import NamedConstants.Proofs.Json.Integer
import NamedConstants.Proofs.Json.Number
import NamedConstants.Proofs.Json.Regular

/-!
# What the reader gives

Whatever the text, a value that is read from it is regular and within the limit of depth
(`isRegular_of_ofText?`). Digits are collected as long as they fit 64 bits, and a number that would
exceed the finite floats is refused: a significand is finite, a division by a power of ten makes it
no larger, and a product is checked (`isFinite_of_scale`). The members of an object are inserted at
the place of their keys, and a container is opened only if the stack has room, which both are kept
by every token (`Reading.isSound_of_step`).
-/

set_option autoImplicit false

namespace NamedConstants.Json

open BinaryFormat (double)

/-! ## Finite floats -/

section Floats

variable {significand : Nat} {x : Double}

/-- A number of 64 bits is a finite float. -/
theorem isFinite_ofInt (fits : significand ≤ largestSignificand) :
    (BinaryFloat.ofInt significand : Double).isFinite = true := by
  have most : double.round (largestSignificand * twoTo double.unitExponent) 1 < double.infinity := by
    decide +kernel
  refine decide_eq_true (Nat.lt_of_le_of_lt ?_ most)
  rw [BinaryFloat.pattern_ofInt, Int.natAbs_natCast]
  exact BinaryFormat.round_le_round (by decide) Nat.one_pos (Nat.mul_le_mul_right _ fits)

/-- A power of ten within the range is at least one. -/
theorem unit_le_powerOfTen {exponent : Nat} (small : exponent ≤ 308) :
    twoTo double.unitExponent ≤ double.units (powerOfTen exponent).pattern := by
  obtain ⟨one, finite, size⟩ := exists_double (show 1 < twoTo 53 by decide) double.unitExponent
    (by decide)
  have least : double.units one * 1 ≤ tenTo exponent * twoTo double.unitExponent := by
    rw [size, Nat.mul_one]
    exact Nat.mul_le_mul_right _ (tenTo_pos exponent)
  rw [Nat.one_mul] at size
  have pattern : (powerOfTen exponent).pattern =
      double.round (tenTo exponent * twoTo double.unitExponent) 1 := by
    rw [powerOfTen_eq_round small]
    exact BinaryFloat.pattern_ofRatio false _ 1
  rw [pattern]
  refine Nat.le_trans (Nat.le_of_eq size.symm) (double.units_le_units ?_)
  exact BinaryFormat.le_round_of_le (by decide) Nat.one_pos (Nat.le_of_lt finite) least

/-- **A quotient by a power of ten is finite.** -/
theorem isFinite_divideByPower (finite : x.isFinite = true) (exponent : Nat) :
    (divideByPower x exponent).isFinite = true := by
  have div {x : Double} (finite : x.isFinite = true) {exponent : Nat} (small : exponent ≤ 308) :
      (x.div (powerOfTen exponent)).isFinite = true := by
    have unit := unit_le_powerOfTen small
    refine decide_eq_true (Nat.lt_of_le_of_lt ?_ (of_decide_eq_true finite))
    rw [BinaryFloat.div, BinaryFloat.pattern_ofRatio]
    exact BinaryFormat.round_le_of_le (by decide) (Nat.lt_of_lt_of_le (twoTo_pos _) unit)
      (Nat.mul_le_mul_left _ unit)
  fun_induction divideByPower x exponent with
  | case1 x exponent small => exact div finite small
  | case2 => exact finite
  | case3 x exponent _ _ ih => exact ih (div finite (Nat.le_refl 308))

/-- **A scaled significand is finite.** -/
theorem isFinite_of_scale (fits : significand ≤ largestSignificand) {exponent : Int}
    (scaled : scale significand exponent = some x) : x.isFinite = true := by
  have whole := isFinite_ofInt fits
  unfold scale at scaled
  dsimp only at scaled
  split at scaled
  · cases scaled
    exact isFinite_divideByPower whole _
  · split at scaled
    · split at scaled
      case isTrue => cases scaled
      case isFalse bounded =>
        cases scaled
        refine decide_eq_true (Nat.lt_of_le_of_ne ?_ (mt beq_iff_eq.mpr bounded))
        rw [BinaryFloat.mul, BinaryFloat.pattern_ofRatio]
        exact double.round_le_infinity _ _
    · split at scaled
      · cases scaled
        exact whole
      · cases scaled

end Floats

/-! ## Numbers -/

/-- The value is regular and holds no other one. -/
def IsSingle (value : Json) : Prop :=
  value.IsRegular ∧ value.depth = 0

section Numbers

variable {negative : Bool} {significand : Nat} {text rest : List Char} {value : Json}

theorem isSingle_signed {x : Double} (finite : x.isFinite = true) :
    (signed negative x).IsSingle := by
  cases negative with
  | false => exact ⟨.float finite, rfl⟩
  | true => exact ⟨.float finite, rfl⟩

/-- Digits are collected as long as they fit. -/
theorem collect_le (fits : significand ≤ largestSignificand) (text : List Char) :
    (collect significand text).1 ≤ largestSignificand := by
  fun_induction collect significand text with
  | case1 => exact fits
  | case2 significand c rest next room ih => exact ih room
  | case3 => exact fits

theorem isSingle_of_scale (fits : significand ≤ largestSignificand) {exponent : Int}
    {after : List Char}
    (read : ((scale significand exponent).map fun x => (signed negative x, after)) =
      some (value, rest)) : value.IsSingle := by
  obtain ⟨x, scaled, same⟩ := Option.map_eq_some_iff.mp read
  cases same
  exact isSingle_signed (isFinite_of_scale fits scaled)

theorem isSingle_of_withExponent (fits : significand ≤ largestSignificand) {start : Int}
    (read : withExponent negative significand start text = some (value, rest)) :
    value.IsSingle := by
  unfold withExponent at read
  -- the sign of the exponent
  split at read
  all_goals
    dsimp only at read
    split at read
    · cases read
    · split at read
      · exact isSingle_of_scale fits read
      · split at read
        · cases read
        · cases read
          exact isSingle_signed (by decide)

theorem isSingle_of_afterDigits (fits : significand ≤ largestSignificand) {start : Int}
    (read : afterDigits negative significand start text = some (value, rest)) :
    value.IsSingle := by
  cases text with
  | nil => exact isSingle_of_scale fits read
  | cons c text =>
      rw [afterDigits] at read
      split at read
      · exact isSingle_of_withExponent fits read
      · exact isSingle_of_scale fits read

theorem isSingle_of_withFraction (fits : significand ≤ largestSignificand) {start : Int}
    (read : withFraction negative significand start text = some (value, rest)) :
    value.IsSingle := by
  unfold withFraction at read
  dsimp only at read
  split at read
  · cases read
  · exact isSingle_of_afterDigits (collect_le fits _) read

theorem isSingle_wholeNumber (fits : significand ≤ largestSignificand) :
    (wholeNumber negative significand).IsSingle := by
  have words : largestSignificand = twoTo 63 + twoTo 63 - 1 := rfl
  unfold wholeNumber
  split
  · have word : FitsWord significand := .inl ⟨Int.natCast_nonneg _, Int.ofNat_le.mpr fits⟩
    exact ⟨.integer word, rfl⟩
  · split
    case isTrue small =>
      rw [Bool.and_eq_true, decide_eq_true_iff, decide_eq_true_iff] at small
      have least : IntegerKind.int64.minimum = -(twoTo 63 : Nat) := rfl
      have most : IntegerKind.int64.maximum = (twoTo 63 : Nat) - 1 := rfl
      have word : FitsWord (-(significand : Int)) := .inr ⟨by omega, by omega⟩
      exact ⟨.integer word, rfl⟩
    case isFalse => exact isSingle_signed (isFinite_ofInt fits)

theorem isSingle_of_unsignedNumber (read : unsignedNumber negative text = some (value, rest)) :
    value.IsSingle := by
  unfold unsignedNumber at read
  have fits := collect_le (Nat.zero_le _) (BinaryFloat.spanDigits text).1
  dsimp only at read
  split at read
  · cases read
  · split at read
    · exact isSingle_of_withFraction fits read
    · split at read
      · cases read
        exact isSingle_wholeNumber fits
      · exact isSingle_of_afterDigits fits read

theorem isSingle_of_number? (read : number? text = some (value, rest)) : value.IsSingle := by
  unfold number? at read
  split at read
  · exact isSingle_of_unsignedNumber read
  · exact isSingle_of_unsignedNumber read

end Numbers

/-! ## Tokens -/

/-- The scalar of the token, if it is one, is regular and holds no other value. -/
def Token.IsSound : Token → Prop
  | .scalar value => value.IsSingle
  | _ => True

theorem isSound_of_token? {text rest : List Char} {token : Token}
    (read : token? text = some (token, rest)) : token.IsSound := by
  unfold token? at read
  split at read
  case h_7 =>
    obtain ⟨_, -, same⟩ := Option.map_eq_some_iff.mp read
    cases same
    trivial
  case h_11 =>
    obtain ⟨⟨value, after⟩, number, same⟩ := Option.map_eq_some_iff.mp read
    cases same
    exact isSingle_of_number? number
  case h_8 =>
    cases read
    exact ⟨.null, rfl⟩
  case h_9 | h_10 =>
    cases read
    exact ⟨.bool _, rfl⟩
  all_goals
    cases read
    trivial

theorem isSound_of_tokensWithin? {bound : Nat} {text : List Char} {tokens : List Token}
    (cut : tokensWithin? bound text = some tokens) : ∀ token ∈ tokens, token.IsSound := by
  induction bound generalizing text tokens with
  | zero =>
      rw [tokensWithin?] at cut
      split at cut
      · cases cut
        exact List.forall_mem_nil _
      · cases cut
  | succ bound ih =>
      rw [tokensWithin?] at cut
      split at cut
      · cases cut
        exact List.forall_mem_nil _
      · split at cut
        case h_1 token rest first =>
          obtain ⟨others, later, same⟩ := Option.map_eq_some_iff.mp cut
          cases same
          exact List.forall_mem_cons.mpr ⟨isSound_of_token? first, ih later⟩
        case h_2 => cases cut

/-! ## Containers -/

theorem elementsDepth_append (first second : List Json) :
    elementsDepth (first ++ second) = max (elementsDepth first) (elementsDepth second) := by
  induction first with
  | nil => exact (Nat.zero_max _).symm
  | cons value rest ih => rw [List.cons_append, elementsDepth, elementsDepth, ih, Nat.max_assoc]

/-- A member that is written makes an object as deep as itself at most. -/
theorem membersDepth_insert (key : String) (value : Json) (members : Members) :
    membersDepth (members.insert key value) ≤ max value.depth (membersDepth members) := by
  induction members with
  | nil => exact Nat.le_refl _
  | cons member members ih =>
      obtain ⟨other, old⟩ := member
      rw [Members.insert]
      split
      · exact Nat.le_refl _
      · split
        · rw [membersDepth, membersDepth]
          omega
        · rw [membersDepth, membersDepth]
          omega

/-- What has been read of a container. -/
def Frame.value : Frame → Json
  | .array elements => .array elements
  | .object members _ => .object members

namespace Reading

/-- What has been read of every container is regular and leaves room for the containers around
it. -/
def IsSoundStack : List Frame → Prop
  | [] => True
  | frame :: stack => frame.value.IsRegular ∧ frame.value.depth + stack.length ≤ depthLimit ∧
    IsSoundStack stack

/-- What has been read is regular and within the limit of depth. -/
structure IsSound (state : Reading) : Prop where
  stack : IsSoundStack state.stack
  next : ∀ value, state.expectation = .next value →
    value.IsRegular ∧ value.depth + state.stack.length ≤ depthLimit

section Stack

variable {stack : List Frame} {value : Json}

theorem length_le_of_isSoundStack (sound : IsSoundStack stack) : stack.length ≤ depthLimit := by
  cases stack with
  | nil => exact Nat.zero_le _
  | cons frame stack =>
      have container : 0 < frame.value.depth := by cases frame <;> exact Nat.succ_pos _
      have room := sound.2.1
      rw [List.length_cons]
      omega

theorem isSound_of_waiting {expectation : Expectation} (sound : IsSoundStack stack)
    (waiting : ∀ value, expectation ≠ .next value) : IsSound ⟨stack, expectation⟩ :=
  ⟨sound, fun value same => absurd same (waiting value)⟩

/-- A container is closed. -/
theorem isSound_of_close {frame : Frame} (sound : IsSoundStack (frame :: stack)) :
    IsSound ⟨stack, .next frame.value⟩ := by
  refine ⟨sound.2.2, fun value same => ?_⟩
  cases same
  exact ⟨sound.1, sound.2.1⟩

/-- An element is added to an array. -/
theorem isSoundStack_append {elements : List Json} (sound : IsSoundStack (.array elements :: stack))
    (new : value.IsRegular ∧ value.depth + (stack.length + 1) ≤ depthLimit) :
    IsSoundStack (.array (elements ++ [value]) :: stack) := by
  obtain ⟨regular, room, below⟩ := sound
  cases regular with
  | array each =>
      refine ⟨.array (List.forall_mem_append.mpr ⟨each, List.forall_mem_singleton.mpr new.1⟩), ?_,
        below⟩
      have single : elementsDepth [value] = value.depth := Nat.max_zero _
      simp only [Frame.value, depth] at room ⊢
      rw [elementsDepth_append, single]
      omega

/-- A member is written into an object. -/
theorem isSoundStack_insert {members : Members} {key : String}
    (sound : IsSoundStack (.object members key :: stack))
    (new : value.IsRegular ∧ value.depth + (stack.length + 1) ≤ depthLimit) (other : String) :
    IsSoundStack (.object (members.insert key value) other :: stack) := by
  obtain ⟨regular, room, below⟩ := sound
  refine ⟨IsRegularWith.insert regular key new.1, ?_, below⟩
  have most := membersDepth_insert key value members
  simp only [Frame.value, depth] at room ⊢
  omega

/-- A value that holds no other one is within the limit. -/
theorem isSound_of_isSingle (sound : IsSoundStack stack) (single : value.IsSingle) :
    IsSound ⟨stack, .next value⟩ := by
  refine ⟨sound, fun other same => ?_⟩
  cases same
  rw [single.2, Nat.zero_add]
  exact ⟨single.1, length_le_of_isSoundStack sound⟩

/-- A container is opened if there is room for it. -/
theorem isSound_of_open {frame : Frame} {expectation : Expectation} (sound : IsSoundStack stack)
    (room : stack.length < depthLimit) (regular : frame.value.IsRegular)
    (empty : frame.value.depth = 1) (waiting : ∀ value, expectation ≠ .next value) :
    IsSound ⟨frame :: stack, expectation⟩ := by
  refine isSound_of_waiting ⟨regular, ?_, sound⟩ waiting
  rw [empty, Nat.add_comm]
  exact room

theorem isSound_of_stepValue {token : Token} {next : Reading} (sound : IsSoundStack stack)
    (plain : token.IsSound) (stepped : stepValue stack token = some next) : next.IsSound := by
  unfold stepValue at stepped
  split at stepped
  case h_1 value =>
    cases stepped
    exact isSound_of_isSingle sound plain
  case h_2 text =>
    cases stepped
    exact isSound_of_isSingle sound ⟨.string text, rfl⟩
  case h_3 =>
    split at stepped
    case isTrue room =>
      cases stepped
      exact isSound_of_open sound room (.array (List.forall_mem_nil _)) rfl nofun
    case isFalse => cases stepped
  case h_4 =>
    split at stepped
    case isTrue room =>
      cases stepped
      exact isSound_of_open sound room (.object .nil (List.forall_mem_nil _)) rfl nofun
    case isFalse => cases stepped
  case h_5 => cases stepped

end Stack

/-- **Every token leaves what has been read regular and within the limit.** -/
theorem isSound_of_step {state next : Reading} {token : Token} (sound : state.IsSound)
    (plain : token.IsSound) (stepped : state.step token = some next) : next.IsSound := by
  obtain ⟨open', read⟩ := sound
  unfold step at stepped
  split at stepped
  case h_1 => exact isSound_of_stepValue open' plain stepped
  case h_3 => exact isSound_of_stepValue open' plain stepped
  case h_12 => cases stepped
  all_goals cases stepped
  -- a container is closed
  case h_2 opened =>
    rw [opened] at open'
    exact isSound_of_close open'
  case h_4 opened =>
    rw [opened] at open'
    exact isSound_of_close open'
  -- a key has been read
  case h_5 | h_6 => exact isSound_of_waiting open' nofun
  case h_7 opened =>
    rw [opened] at open'
    exact isSound_of_waiting open' nofun
  -- a value goes into the container around it
  case h_8 expected opened =>
    have new := read _ expected
    rw [opened] at open' new
    exact isSound_of_waiting (isSoundStack_append open' new) nofun
  case h_9 expected opened =>
    have new := read _ expected
    rw [opened] at open' new
    exact isSound_of_waiting (isSoundStack_insert open' new "") nofun
  case h_10 expected opened =>
    have new := read _ expected
    rw [opened] at open' new
    exact isSound_of_close (isSoundStack_append open' new)
  case h_11 expected opened =>
    have new := read _ expected
    rw [opened] at open' new
    exact isSound_of_close (isSoundStack_insert open' new "")

theorem isSound_of_run {state last : Reading} {tokens : List Token} (sound : state.IsSound)
    (plain : ∀ token ∈ tokens, token.IsSound) (read : state.run tokens = some last) :
    last.IsSound := by
  induction tokens generalizing state with
  | nil =>
      cases read
      exact sound
  | cons token tokens ih =>
      obtain ⟨head, tail⟩ := List.forall_mem_cons.mp plain
      rw [run] at read
      split at read
      case h_1 next stepped => exact ih (isSound_of_step sound head stepped) tail read
      case h_2 => cases read

end Reading

/-- **A value that is read is regular and within the limit of depth.** -/
theorem isRegular_of_ofText? {text : List Char} {value : Json}
    (read : ofText? text = some value) : value.IsRegular ∧ value.depth ≤ depthLimit := by
  obtain ⟨tokens, cut, whole⟩ := Option.bind_eq_some_iff.mp read
  obtain ⟨last, ran, result⟩ := Option.bind_eq_some_iff.mp whole
  have start : Reading.start.IsSound := Reading.isSound_of_waiting trivial nofun
  have sound := Reading.isSound_of_run start (isSound_of_tokensWithin? cut) ran
  cases Reading.result?_eq_some result
  exact sound.next value rfl

end NamedConstants.Json
