import NamedConstants.Proofs.Result
import NamedConstants.Proofs.Scalar.Text

/-!
# What the reader of integers takes and refuses

A text is refused for the first fault from left to right (`Faulty`): it is empty, a
character behind the sign is no digit, or a digit leads out of the range. The characters in
front of the fault are digits whose number is in the range, so nothing before them is at
fault (`digits_append`), and the reader reports exactly this fault
(`read_eq_error_iff`). Zeros in front do not count: they lead to zero, which every range has.

Among the texts that spell an integer one is canonical, without a plus and without a zero in
front of other digits. It is the one that is written (`write_eq_iff_isCanonical`). So an
integer is read back from its text, and a text comes back from its integer if it is canonical
(`Scalar.ofText_integer_iff`).
-/

set_option autoImplicit false

namespace NamedConstants

open BinaryFloat (digitsValue)

namespace IntegerText

variable {low high : Int}

/-! ## Faults -/

/-- The number of digits with a sign lies between the bounds. -/
def IsBetween (low high : Int) (negative : Bool) (size : Nat) : Prop :=
  low ≤ withSign negative size ∧ withSign negative size ≤ high

/-- Where reading digits stops, and why: everything in front leads to numbers between the
bounds. `size` is what has been read before. -/
inductive Stops (low high : Int) (negative : Bool) (size : Nat) : List Char → Reason → Prop
  | stray {good : List Char} {c : Char} {rest : List Char} (all : AllDigits good)
      (read : IsBetween low high negative (Nat.ofDigitChars 10 good size))
      (other : c.isDigit = false) : Stops low high negative size (good ++ c :: rest) .invalidDigit
  | large {good : List Char} {c : Char} {rest : List Char} (all : AllDigits good)
      (read : IsBetween low high negative (Nat.ofDigitChars 10 good size)) (digit : c.isDigit = true)
      (beyond : high < withSign negative (Nat.ofDigitChars 10 (good ++ [c]) size)) :
      Stops low high negative size (good ++ c :: rest) .tooLarge
  | small {good : List Char} {c : Char} {rest : List Char} (all : AllDigits good)
      (read : IsBetween low high negative (Nat.ofDigitChars 10 good size)) (digit : c.isDigit = true)
      (beyond : withSign negative (Nat.ofDigitChars 10 (good ++ [c]) size) < low) :
      Stops low high negative size (good ++ c :: rest) .tooSmall

/-- The first fault of a text that is no integer between the bounds. A range without
negative numbers has no minus, so there a minus is a character like any other. -/
inductive Faulty (low high : Int) : List Char → Reason → Prop
  | empty : Faulty low high [] .emptyInteger
  | plusAlone : Faulty low high ['+'] .invalidDigit
  | minusAlone : Faulty low high ['-'] .invalidDigit
  | plus {rest : List Char} {reason : Reason} (stops : Stops low high false 0 rest reason) :
      Faulty low high ('+' :: rest) reason
  | minus {rest : List Char} {reason : Reason} (signed : low < 0)
      (stops : Stops low high true 0 rest reason) : Faulty low high ('-' :: rest) reason
  | unsigned {c : Char} {rest : List Char} {reason : Reason} (notPlus : c ≠ '+')
      (notMinus : low < 0 → c ≠ '-') (stops : Stops low high false 0 (c :: rest) reason) :
      Faulty low high (c :: rest) reason

/-! ## Digits -/

/-- A character that is no digit ends the digits. -/
theorem digits_of_other {negative : Bool} {value : Int} {c : Char} (other : c.isDigit = false)
    (rest : List Char) : digits low high negative value (c :: rest) = .error .invalidDigit := by
  rw [digits, if_neg (Bool.not_eq_true _ ▸ other)]

/-- A digit is checked after it has been added. -/
theorem digits_of_digit {negative : Bool} {size : Nat} {c : Char} (digit : c.isDigit = true)
    (rest : List Char) :
    digits low high negative (withSign negative size) (c :: rest) =
      if withSign negative (Nat.ofDigitChars 10 [c] size) < low then .error .tooSmall
      else if high < withSign negative (Nat.ofDigitChars 10 [c] size) then .error .tooLarge
      else digits low high negative (withSign negative (Nat.ofDigitChars 10 [c] size)) rest := by
  rw [digits, if_pos digit]
  dsimp only
  rw [withSign_next, Nat.ofDigitChars_cons, Nat.ofDigitChars_nil, show '0'.toNat = 48 from rfl]

section Digits

variable (below : low ≤ 0) (above : 0 ≤ high)

include below above

/-- **Digits are passed over as long as their number is between the bounds.** -/
theorem digits_append {negative : Bool} {size : Nat} {good : List Char} (all : AllDigits good)
    (read : IsBetween low high negative (Nat.ofDigitChars 10 good size)) (rest : List Char) :
    digits low high negative (withSign negative size) (good ++ rest) =
      digits low high negative (withSign negative (Nat.ofDigitChars 10 good size)) rest := by
  induction good generalizing size with
  | nil => rfl
  | cons c good ih =>
      have split : Nat.ofDigitChars 10 (c :: good) size =
          Nat.ofDigitChars 10 good (Nat.ofDigitChars 10 [c] size) := rfl
      rw [split] at read ⊢
      have grown := le_ofDigitChars (Nat.ofDigitChars 10 [c] size) good
      obtain ⟨least, most⟩ := withSign_between below above grown read.1 read.2
      rw [List.cons_append, digits_of_digit all.head, if_neg (Int.not_lt.mpr least),
        if_neg (Int.not_lt.mpr most)]
      exact ih all.tail read

/-- **Digits are refused where they stop, and for this reason.** -/
theorem digits_eq_error_iff {negative : Bool} {size : Nat} {text : List Char} {reason : Reason}
    (within : IsBetween low high negative size) :
    digits low high negative (withSign negative size) text = .error reason ↔
      Stops low high negative size text reason := by
  constructor
  · intro failed
    induction text generalizing size with
    | nil => cases failed
    | cons c rest ih =>
        cases digit : c.isDigit with
        | false =>
            rw [digits_of_other digit] at failed
            cases failed
            exact .stray AllDigits.nil within digit
        | true =>
            rw [digits_of_digit digit] at failed
            split at failed
            case isTrue small =>
              cases failed
              exact .small AllDigits.nil within digit small
            case isFalse least =>
              split at failed
              case isTrue large =>
                cases failed
                exact .large AllDigits.nil within digit large
              case isFalse most =>
                -- the digit is passed over, so it belongs to what is in front of the fault
                have next := ih ⟨Int.not_lt.mp least, Int.not_lt.mp most⟩ failed
                cases next with
                | stray all read other => exact .stray (all.cons digit) read other
                | large all read own beyond => exact .large (all.cons digit) read own beyond
                | small all read own beyond => exact .small (all.cons digit) read own beyond
  · intro stops
    cases stops with
    | stray all read other => rw [digits_append below above all read, digits_of_other other]
    | large all read digit beyond =>
        rw [Nat.ofDigitChars_append] at beyond
        rw [digits_append below above all read, digits_of_digit digit, if_neg, if_pos beyond]
        omega
    | small all read digit beyond =>
        rw [Nat.ofDigitChars_append] at beyond
        rw [digits_append below above all read, digits_of_digit digit, if_pos beyond]

/-- The same from the start, where no digit has been read. -/
theorem digits_zero_eq_error_iff (negative : Bool) {text : List Char} {reason : Reason} :
    digits low high negative 0 text = .error reason ↔ Stops low high negative 0 text reason := by
  have zero : withSign negative 0 = 0 := by cases negative <;> rfl
  have within : IsBetween low high negative 0 := by
    rw [IsBetween, zero]
    exact ⟨below, above⟩
  rw [← digits_eq_error_iff below above within, zero]

end Digits

/-! ## Whole texts -/

theorem Stops.ne_nil {negative : Bool} {size : Nat} {text : List Char} {reason : Reason}
    (stops : Stops low high negative size text reason) : text ≠ [] := by
  cases stops with
  | stray => exact List.append_ne_nil_of_right_ne_nil _ (List.cons_ne_nil _ _)
  | large => exact List.append_ne_nil_of_right_ne_nil _ (List.cons_ne_nil _ _)
  | small => exact List.append_ne_nil_of_right_ne_nil _ (List.cons_ne_nil _ _)

theorem read_plus {rest : List Char} (some : rest ≠ []) :
    read low high ('+' :: rest) = digits low high false 0 rest := by
  rw [read]
  exact some

theorem read_minus (signed : low < 0) {rest : List Char} (some : rest ≠ []) :
    read low high ('-' :: rest) = digits low high true 0 rest := by
  rw [read, if_pos signed]
  exact some

/-- A minus that is no sign is refused as the character that it is. -/
theorem read_without_sign {c : Char} (notPlus : c ≠ '+') (notMinus : low < 0 → c ≠ '-')
    (rest : List Char) : read low high (c :: rest) = digits low high false 0 (c :: rest) := by
  by_cases minus : c = '-'
  · subst minus
    have unsigned : ¬low < 0 := fun signed => notMinus signed rfl
    rw [digits_of_other rfl]
    cases rest with
    | nil => rfl
    | cons d rest =>
        rw [read]
        · exact if_neg unsigned
        · exact List.cons_ne_nil d rest
  · exact read_unsigned notPlus minus rest

/-- **A text is refused for its first fault.** -/
theorem read_eq_error_iff (below : low ≤ 0) (above : 0 ≤ high) {text : List Char} {reason : Reason} :
    read low high text = .error reason ↔ Faulty low high text reason := by
  have stopped (negative : Bool) (rest : List Char) :
      digits low high negative 0 rest = .error reason ↔ Stops low high negative 0 rest reason :=
    digits_zero_eq_error_iff below above negative
  constructor
  · intro failed
    cases text with
    | nil =>
        cases failed
        exact .empty
    | cons c rest =>
        by_cases plus : c = '+'
        · subst plus
          by_cases alone : rest = []
          · subst alone
            cases failed
            exact .plusAlone
          · rw [read_plus alone] at failed
            exact .plus ((stopped false rest).mp failed)
        by_cases minus : low < 0 ∧ c = '-'
        · obtain ⟨signed, rfl⟩ := minus
          by_cases alone : rest = []
          · subst alone
            cases failed
            exact .minusAlone
          · rw [read_minus signed alone] at failed
            exact .minus signed ((stopped true rest).mp failed)
        · have notMinus : low < 0 → c ≠ '-' := fun signed same => minus ⟨signed, same⟩
          rw [read_without_sign plus notMinus] at failed
          exact .unsigned plus notMinus ((stopped false (c :: rest)).mp failed)
  · intro faulty
    cases faulty with
    | empty => rfl
    | plusAlone => rfl
    | minusAlone => rfl
    | @plus rest _ stops =>
        rw [read_plus stops.ne_nil]
        exact (stopped false rest).mpr stops
    | @minus rest _ signed stops =>
        rw [read_minus signed stops.ne_nil]
        exact (stopped true rest).mpr stops
    | @unsigned c rest _ notPlus notMinus stops =>
        rw [read_without_sign notPlus notMinus]
        exact (stopped false (c :: rest)).mpr stops

/-! ## Canonical texts -/

/-- The text is an integer without a plus and without a zero in front of other digits; zero
has no sign. -/
inductive IsCanonical : List Char → Prop
  | zero : IsCanonical ['0']
  | positive {c : Char} {rest : List Char} (all : AllDigits (c :: rest)) (nonzero : c ≠ '0') :
      IsCanonical (c :: rest)
  | negative {c : Char} {rest : List Char} (all : AllDigits (c :: rest)) (nonzero : c ≠ '0') :
      IsCanonical ('-' :: c :: rest)

/-- **An integer is written canonically.** -/
theorem isCanonical_write (value : Int) : IsCanonical (write value) := by
  have all := allDigits_decimalDigits value.natAbs
  rw [write, Json.integerText]
  split
  case isTrue negative =>
    obtain ⟨c, rest, text, nonzero⟩ := decimalDigits_eq_cons (n := value.natAbs) (by omega)
    rw [text] at all ⊢
    exact .negative all nonzero
  case isFalse =>
    by_cases zero : value.natAbs = 0
    · rw [zero]
      exact .zero
    · obtain ⟨c, rest, text, nonzero⟩ := decimalDigits_eq_cons zero
      rw [text] at all ⊢
      exact .positive all nonzero

/-- **A text that spells an integer is its text exactly if it is canonical.** -/
theorem write_eq_iff_isCanonical {text : List Char} {value : Int} (spelled : Spells text value) :
    write value = text ↔ IsCanonical text := by
  constructor
  · rintro rfl
    exact isCanonical_write value
  · intro canonical
    cases canonical with
    | zero =>
        obtain ⟨-, rfl⟩ := (Spells.unsigned_iff (by decide) (by decide)).mp spelled
        rfl
    | positive all nonzero =>
        cases spelled.unique (.unsigned all (List.cons_ne_nil _ _))
        rw [write, Json.integerText, if_neg (by omega), Int.natAbs_natCast,
          decimalDigits_digitsValue all nonzero]
    | @negative c rest all nonzero =>
        cases spelled.unique (.minus all (List.cons_ne_nil _ _))
        have digits := decimalDigits_digitsValue all nonzero
        have positive : digitsValue (c :: rest) ≠ 0 := by
          intro zero
          rw [zero] at digits
          exact nonzero (List.cons.inj digits).1.symm
        rw [write, Json.integerText, if_pos (by omega), Int.natAbs_neg, Int.natAbs_natCast, digits]

end IntegerText

/-! ## Integers of a kind -/

/-- The kinds with a sign are the ones with negative numbers. -/
theorem IntegerKind.minimum_neg_iff (kind : IntegerKind) :
    kind.minimum < 0 ↔ kind.isSigned = true := by
  cases kind <;> decide

namespace Scalar

variable {kind : IntegerKind}

/-- An integer that has been read between the bounds of a kind is one of the kind. -/
theorem integerOfText_of_read {text : List Char} {value : Int}
    (read : IntegerText.read kind.minimum kind.maximum text = .ok value) :
    ∃ fits : kind.Contains value, integerOfText kind text = .ok (.integer ⟨value, fits⟩) := by
  obtain ⟨-, least, most, -⟩ :=
    (IntegerText.read_eq_ok_iff kind.minimum_nonpos kind.maximum_nonneg).mp read
  refine ⟨⟨least, most⟩, ?_⟩
  rw [integerOfText, read]
  dsimp only
  rw [ofInt?_eq_some_iff.mpr ⟨⟨least, most⟩, rfl⟩]

theorem integerOfText_of_refused {text : List Char} {reason : Reason}
    (refused : IntegerText.read kind.minimum kind.maximum text = .error reason) :
    integerOfText kind text = .error reason := by
  rw [integerOfText, refused]

theorem integerOfText_eq_ok_iff {text : List Char} {x : BoundedInt kind} :
    integerOfText kind text = .ok (.integer x) ↔
      IntegerText.read kind.minimum kind.maximum text = .ok x.value := by
  cases read : IntegerText.read kind.minimum kind.maximum text with
  | error reason =>
      rw [integerOfText_of_refused read]
      constructor
      · rintro ⟨⟩
      · rintro ⟨⟩
  | ok value =>
      obtain ⟨fits, whole⟩ := integerOfText_of_read read
      rw [whole]
      constructor
      · rintro ⟨⟩
        rfl
      · rintro ⟨⟩
        rfl

theorem integerOfText_eq_error_iff {text : List Char} {reason : Reason} :
    integerOfText kind text = .error reason ↔
      IntegerText.Faulty kind.minimum kind.maximum text reason := by
  rw [← IntegerText.read_eq_error_iff kind.minimum_nonpos kind.maximum_nonneg]
  cases read : IntegerText.read kind.minimum kind.maximum text with
  | error own => rw [integerOfText_of_refused read, Except.error.injEq, Except.error.injEq]
  | ok value =>
      obtain ⟨fits, whole⟩ := integerOfText_of_read read
      rw [whole]
      constructor
      · rintro ⟨⟩
      · rintro ⟨⟩

/-- An integer is read from the texts that spell it, with a minus only for a kind that has
one. -/
theorem ofText_eq_integer_iff {text : String} {x : BoundedInt kind} :
    ofText text (.integer kind) = .ok (.integer x) ↔
      IntegerText.Spells text.toList x.value ∧
        (kind.isSigned = true ∨ text.toList.head? ≠ some '-') := by
  have range := x.contains
  have signs : (kind.minimum = 0 → text.toList.head? ≠ some '-') ↔
      kind.isSigned = true ∨ text.toList.head? ≠ some '-' := by
    rw [← kind.minimum_neg_iff]
    have least := kind.minimum_nonpos
    constructor
    · intro unsigned
      rcases Int.lt_or_eq_of_le least with negative | zero
      · exact .inl negative
      · exact .inr (unsigned zero)
    · rintro (negative | other) zero
      · omega
      · exact other
  rw [ofText, orUnreadable, mapError_eq_ok_iff, integerOfText_eq_ok_iff,
    IntegerText.read_eq_ok_iff kind.minimum_nonpos kind.maximum_nonneg, signs]
  constructor
  · rintro ⟨spelled, -, -, signed⟩
    exact ⟨spelled, signed⟩
  · rintro ⟨spelled, signed⟩
    exact ⟨spelled, range.1, range.2, signed⟩

theorem ofText_eq_error_iff {text : String} {failure : Failure} :
    ofText text (.integer kind) = .error failure ↔
      ∃ reason, IntegerText.Faulty kind.minimum kind.maximum text.toList reason ∧
        failure = .unreadable text (.integer kind) reason := by
  simp only [← integerOfText_eq_error_iff, ofText, orUnreadable]
  cases integerOfText kind text.toList with
  | error reason =>
      constructor
      · rintro ⟨⟩
        exact ⟨reason, rfl, rfl⟩
      · rintro ⟨_, ⟨⟩, rfl⟩
        rfl
  | ok scalar =>
      constructor
      · rintro ⟨⟩
      · rintro ⟨_, ⟨⟩, -⟩

/-- **Integer text is taken exactly if it is an integer of the kind**, and otherwise it is
refused for its first fault. An integer is written canonically and read back, and a text
comes back from the integer that it is read as exactly if it is canonical. -/
theorem ofText_integer_iff (kind : IntegerKind) :
    (∀ (text : String) (n : Int),
      (∃ fits : kind.Contains n, ofText text (.integer kind) = .ok (.integer ⟨n, fits⟩)) ↔
        IntegerText.Spells text.toList n ∧
          (kind.isSigned = true ∨ text.toList.head? ≠ some '-') ∧ kind.Contains n) ∧
    (∀ (text : String) (failure : Failure),
      ofText text (.integer kind) = .error failure ↔
        ∃ reason, IntegerText.Faulty kind.minimum kind.maximum text.toList reason ∧
          failure = .unreadable text (.integer kind) reason) ∧
    (∀ x : BoundedInt kind,
      IntegerText.Spells (integer x).toText.toList x.value ∧
        IntegerText.IsCanonical (integer x).toText.toList ∧
        ofText (integer x).toText (.integer kind) = .ok (.integer x)) ∧
    ∀ text : String,
      (∃ x, ofText text (.integer kind) = .ok (.integer x) ∧ (integer x).toText = text) ↔
        IntegerText.IsCanonical text.toList ∧
          ∃ n, IntegerText.Spells text.toList n ∧ kind.Contains n := by
  refine ⟨fun text n => ?_, fun text failure => ofText_eq_error_iff, fun x => ?_, fun text => ?_⟩
  · constructor
    · rintro ⟨fits, read⟩
      obtain ⟨spelled, signed⟩ := ofText_eq_integer_iff.mp read
      exact ⟨spelled, signed, fits⟩
    · rintro ⟨spelled, signed, fits⟩
      exact ⟨fits, ofText_eq_integer_iff.mpr ⟨spelled, signed⟩⟩
  · have text : (integer x).toText.toList = IntegerText.write x.value := String.toList_ofList
    rw [text]
    exact ⟨IntegerText.spells_write x.value, IntegerText.isCanonical_write x.value,
      ofText_toText rfl (integer x)⟩
  · constructor
    · rintro ⟨x, read, rfl⟩
      have text : (integer x).toText.toList = IntegerText.write x.value := String.toList_ofList
      rw [text]
      exact ⟨IntegerText.isCanonical_write x.value, x.value, IntegerText.spells_write x.value,
        x.contains⟩
    · rintro ⟨canonical, n, spelled, fits⟩
      have own : (integer ⟨n, fits⟩).toText = text := by
        rw [toText, writeText, (IntegerText.write_eq_iff_isCanonical spelled).mpr canonical,
          String.ofList_toList]
      exact ⟨⟨n, fits⟩, own ▸ ofText_toText rfl (integer ⟨n, fits⟩), own⟩

/-! Which fault comes first decides the reason; zeros in front are no fault. -/

example : IntegerText.read 0 255 "300x".toList = .error .tooLarge := rfl

example : IntegerText.read 0 255 "25x0".toList = .error .invalidDigit := rfl

example : IntegerText.read (-128) 127 "-0000128".toList = .ok (-128) := rfl

end Scalar

end NamedConstants
