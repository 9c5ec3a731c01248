import NamedConstants.Proofs.Text.Blank
import NamedConstants.Scalar.Text

/-!
# Integers as text

A text spells an integer if it consists of digits, at least one, with a sign in front
or none (`Spells`); it spells one integer only (`Spells.unique`). The reader checks the
bounds after every digit, for the number that this beginning of the text spells. Since
these numbers lie between zero and the whole one, its answer depends on the whole one
alone: it reads the texts that spell an integer between the bounds (`read_eq_ok_iff`). A
range without negative numbers has no minus, so that not even `-0` is read. The text of an
integer spells it, so it is read back (`read_write`).
-/

set_option autoImplicit false

namespace NamedConstants.IntegerText

open BinaryFloat (digitsValue)

/-! ## Spelled integers -/

/-- The text is an integer in base ten. -/
inductive Spells : List Char → Int → Prop
  | unsigned {digits : List Char} (all : AllDigits digits) (some : digits ≠ []) :
      Spells digits (digitsValue digits)
  | plus {digits : List Char} (all : AllDigits digits) (some : digits ≠ []) :
      Spells ('+' :: digits) (digitsValue digits)
  | minus {digits : List Char} (all : AllDigits digits) (some : digits ≠ []) :
      Spells ('-' :: digits) (-(digitsValue digits : Int))

namespace Spells

variable {text : List Char} {value : Int}

theorem ne_nil (spelled : Spells text value) : text ≠ [] := by
  cases spelled with
  | unsigned _ some => exact some
  | plus => exact List.cons_ne_nil _ _
  | minus => exact List.cons_ne_nil _ _

/-- The characters of a spelled integer are digits and signs. -/
theorem isDigit_or_sign (spelled : Spells text value) {c : Char} (member : c ∈ text) :
    c.isDigit = true ∨ c = '+' ∨ c = '-' := by
  cases spelled with
  | unsigned all => exact .inl (all c member)
  | plus all =>
      rcases List.mem_cons.mp member with same | later
      · exact .inr (.inl same)
      · exact .inl (all c later)
  | minus all =>
      rcases List.mem_cons.mp member with same | later
      · exact .inr (.inr same)
      · exact .inl (all c later)

/-- A spelled integer has no blanks, so it is what is left of it between blanks. -/
theorem trim_between (spelled : Spells text value) {before after : List Char}
    (blank : ∀ c ∈ before, Text.isBlank c = true) (blank' : ∀ c ∈ after, Text.isBlank c = true) :
    Text.trim (before ++ (text ++ after)) = text := by
  refine Text.trim_between blank blank' spelled.ne_nil ?_
  intro c member
  rcases spelled.isDigit_or_sign member with digit | rfl | rfl
  · exact Text.isBlank_of_isDigit digit
  · decide
  · decide

theorem trim_eq (spelled : Spells text value) : Text.trim text = text := by
  have none : ∀ c ∈ ([] : List Char), Text.isBlank c = true := by simp
  have kept := spelled.trim_between none none
  rwa [List.append_nil, List.nil_append] at kept

/-! The first character tells which of the three forms a text has. -/

theorem plus_iff {digits : List Char} :
    Spells ('+' :: digits) value ↔
      AllDigits digits ∧ digits ≠ [] ∧ value = digitsValue digits := by
  constructor
  · intro spelled
    cases spelled with
    | unsigned all => exact absurd all.head (by decide)
    | plus all some => exact ⟨all, some, rfl⟩
  · rintro ⟨all, some, rfl⟩
    exact .plus all some

theorem minus_iff {digits : List Char} :
    Spells ('-' :: digits) value ↔
      AllDigits digits ∧ digits ≠ [] ∧ value = -(digitsValue digits : Int) := by
  constructor
  · intro spelled
    cases spelled with
    | unsigned all => exact absurd all.head (by decide)
    | minus all some => exact ⟨all, some, rfl⟩
  · rintro ⟨all, some, rfl⟩
    exact .minus all some

theorem unsigned_iff {c : Char} {digits : List Char} (notPlus : c ≠ '+') (notMinus : c ≠ '-') :
    Spells (c :: digits) value ↔ AllDigits (c :: digits) ∧ value = digitsValue (c :: digits) := by
  constructor
  · intro spelled
    cases spelled with
    | unsigned all => exact ⟨all, rfl⟩
    | plus => exact absurd rfl notPlus
    | minus => exact absurd rfl notMinus
  · rintro ⟨all, rfl⟩
    exact .unsigned all (List.cons_ne_nil c digits)

/-- **A text spells one integer only.** -/
theorem unique {other : Int} (spelled : Spells text value) (spelled' : Spells text other) :
    value = other := by
  cases spelled with
  | unsigned all _ =>
      cases spelled' with
      | unsigned => rfl
      | plus => exact absurd all.head (by decide)
      | minus => exact absurd all.head (by decide)
  | plus => exact (plus_iff.mp spelled').2.2.symm
  | minus => exact (minus_iff.mp spelled').2.2.symm

end Spells

/-! ## Digits -/

/-- A number of digits with the sign in front of them. -/
def withSign (negative : Bool) (size : Nat) : Int :=
  if negative then -(size : Int) else size

variable {low high : Int}

/-- One more digit makes the number ten times as large and adds the digit on the side of
the sign. -/
theorem withSign_next (negative : Bool) (size digit : Nat) :
    (if negative then 10 * withSign negative size - digit
      else 10 * withSign negative size + digit) = withSign negative (10 * size + digit) := by
  cases negative with
  | false =>
      simp only [withSign, Bool.false_eq_true, if_false]
      omega
  | true =>
      simp only [withSign, if_true]
      omega

/-- A shorter number lies between zero and the longer one. -/
theorem withSign_between (below : low ≤ 0) (above : 0 ≤ high) {negative : Bool} {size longer : Nat}
    (le : size ≤ longer) (least : low ≤ withSign negative longer)
    (most : withSign negative longer ≤ high) :
    low ≤ withSign negative size ∧ withSign negative size ≤ high := by
  cases negative with
  | false =>
      simp only [withSign, Bool.false_eq_true, if_false] at least most ⊢
      omega
  | true =>
      simp only [withSign, if_true] at least most ⊢
      omega

/-- A digit is read if the number that it leads to lies between the bounds. -/
theorem digits_cons_eq_ok_iff {negative : Bool} {c : Char} {text : List Char} {size : Nat}
    {next value : Int} (leads : withSign negative (10 * size + (c.toNat - 48)) = next) :
    digits low high negative (withSign negative size) (c :: text) = .ok value ↔
      c.isDigit = true ∧ low ≤ next ∧ next ≤ high ∧ digits low high negative next text = .ok value := by
  rw [digits]
  dsimp only
  rw [withSign_next, leads]
  by_cases digit : c.isDigit = true
  · rw [if_pos digit]
    by_cases small : next < low
    · rw [if_pos small]
      constructor
      · rintro ⟨⟩
      · exact fun read => absurd small (Int.not_lt.mpr read.2.1)
    by_cases large : high < next
    · rw [if_neg small, if_pos large]
      constructor
      · rintro ⟨⟩
      · exact fun read => absurd large (Int.not_lt.mpr read.2.2.1)
    · rw [if_neg small, if_neg large]
      exact ⟨fun read => ⟨digit, Int.not_lt.mp small, Int.not_lt.mp large, read⟩,
        fun read => read.2.2.2⟩
  · rw [if_neg digit]
    constructor
    · rintro ⟨⟩
    · exact fun read => absurd read.1 digit

/-- **Digits are read if the number that they spell lies between the bounds.** -/
theorem digits_eq_ok_iff (below : low ≤ 0) (above : 0 ≤ high) {negative : Bool} {text : List Char}
    {size : Nat} {value : Int} (least : low ≤ withSign negative size)
    (most : withSign negative size ≤ high) :
    digits low high negative (withSign negative size) text = .ok value ↔
      AllDigits text ∧ value = withSign negative (Nat.ofDigitChars 10 text size) ∧
        low ≤ value ∧ value ≤ high := by
  induction text generalizing size with
  | nil =>
      constructor
      · rintro ⟨⟩
        exact ⟨AllDigits.nil, rfl, least, most⟩
      · rintro ⟨-, rfl, -⟩
        rfl
  | cons c text ih =>
      rw [digits_cons_eq_ok_iff rfl, Nat.ofDigitChars_cons, show '0'.toNat = 48 from rfl]
      have grown := le_ofDigitChars (10 * size + (c.toNat - 48)) text
      constructor
      · rintro ⟨digit, least, most, read⟩
        obtain ⟨all, whole⟩ := (ih least most).mp read
        exact ⟨all.cons digit, whole⟩
      · rintro ⟨all, rfl, least, most⟩
        obtain ⟨least', most'⟩ := withSign_between below above grown least most
        exact ⟨all.head, least', most', (ih least' most').mpr ⟨all.tail, rfl, least, most⟩⟩

/-- The same from the start, where no digit has been read. -/
theorem digits_zero_eq_ok_iff (below : low ≤ 0) (above : 0 ≤ high) (negative : Bool)
    {text : List Char} {value : Int} :
    digits low high negative 0 text = .ok value ↔
      AllDigits text ∧ value = withSign negative (digitsValue text) ∧ low ≤ value ∧ value ≤ high := by
  have zero : withSign negative 0 = 0 := by cases negative <;> rfl
  rw [← zero]
  exact digits_eq_ok_iff below above (zero ▸ below) (zero ▸ above)

/-! ## Whole texts -/

/-- Behind a plus there is at least one digit. -/
theorem read_plus_eq_ok_iff {rest : List Char} {value : Int} :
    read low high ('+' :: rest) = .ok value ↔
      rest ≠ [] ∧ digits low high false 0 rest = .ok value := by
  cases rest with
  | nil =>
      constructor
      · rintro ⟨⟩
      · exact fun written => absurd rfl written.1
  | cons c rest =>
      rw [read]
      · exact ⟨fun read => ⟨List.cons_ne_nil c rest, read⟩, And.right⟩
      · exact List.cons_ne_nil c rest

/-- Behind a minus there is at least one digit, and some number of the range is
negative. -/
theorem read_minus_eq_ok_iff {rest : List Char} {value : Int} :
    read low high ('-' :: rest) = .ok value ↔
      rest ≠ [] ∧ low < 0 ∧ digits low high true 0 rest = .ok value := by
  cases rest with
  | nil =>
      constructor
      · rintro ⟨⟩
      · exact fun written => absurd rfl written.1
  | cons c rest =>
      rw [read]
      · by_cases negative : low < 0
        · rw [if_pos negative]
          exact ⟨fun read => ⟨List.cons_ne_nil c rest, negative, read⟩, fun read => read.2.2⟩
        · rw [if_neg negative]
          constructor
          · rintro ⟨⟩
          · exact fun read => absurd read.2.1 negative
      · exact List.cons_ne_nil c rest

theorem read_unsigned {c : Char} (notPlus : c ≠ '+') (notMinus : c ≠ '-') (rest : List Char) :
    read low high (c :: rest) = digits low high false 0 (c :: rest) := by
  rw [read]
  · exact List.cons_ne_nil c rest
  · exact fun same => notPlus (List.cons.inj same).1
  · exact fun same => notMinus (List.cons.inj same).1
  · exact fun _ same => notPlus (List.cons.inj same).1
  · exact fun _ same => notMinus (List.cons.inj same).1

/-- **A text is read exactly if it spells an integer between the bounds**, without a minus
if no number between them is negative. -/
theorem read_eq_ok_iff (below : low ≤ 0) (above : 0 ≤ high) {text : List Char} {value : Int} :
    read low high text = .ok value ↔
      Spells text value ∧ low ≤ value ∧ value ≤ high ∧ (low = 0 → text.head? ≠ some '-') := by
  cases text with
  | nil =>
      constructor
      · rintro ⟨⟩
      · exact fun spelled => absurd rfl spelled.1.ne_nil
  | cons c rest =>
      rw [List.head?_cons]
      by_cases plus : c = '+'
      · subst plus
        rw [read_plus_eq_ok_iff, digits_zero_eq_ok_iff below above, Spells.plus_iff]
        constructor
        · rintro ⟨some, all, spelled, least, most⟩
          exact ⟨⟨all, some, spelled⟩, least, most, fun _ => by decide⟩
        · rintro ⟨⟨all, some, spelled⟩, least, most, -⟩
          exact ⟨some, all, spelled, least, most⟩
      by_cases minus : c = '-'
      · subst minus
        rw [read_minus_eq_ok_iff, digits_zero_eq_ok_iff below above, Spells.minus_iff]
        constructor
        · rintro ⟨some, negative, all, spelled, least, most⟩
          exact ⟨⟨all, some, spelled⟩, least, most, fun zero => absurd zero (Int.ne_of_lt negative)⟩
        · rintro ⟨⟨all, some, spelled⟩, least, most, allowed⟩
          have negative : low ≠ 0 := fun zero => allowed zero rfl
          exact ⟨some, by omega, all, spelled, least, most⟩
      · rw [read_unsigned plus minus, digits_zero_eq_ok_iff below above, Spells.unsigned_iff plus minus]
        constructor
        · rintro ⟨all, spelled, least, most⟩
          exact ⟨⟨all, spelled⟩, least, most, fun _ same => minus (Option.some.inj same)⟩
        · rintro ⟨⟨all, spelled⟩, least, most, -⟩
          exact ⟨all, spelled, least, most⟩

/-! ## The text of an integer -/

/-- The text of an integer spells it. -/
theorem spells_write (value : Int) : Spells (write value) value := by
  have all := allDigits_decimalDigits value.natAbs
  have some := decimalDigits_ne_nil value.natAbs
  rw [write, Json.integerText]
  split
  case isTrue negative =>
    refine Spells.minus_iff.mpr ⟨all, some, ?_⟩
    rw [digitsValue_decimalDigits]
    omega
  case isFalse positive =>
    have spelled := Spells.unsigned all some
    rwa [digitsValue_decimalDigits, Int.natAbs_of_nonneg (by omega)] at spelled

/-- Only negative integers are written with a minus. -/
theorem head?_write {value : Int} (positive : 0 ≤ value) : (write value).head? ≠ some '-' := by
  rw [write, Json.integerText, if_neg (Int.not_lt.mpr positive)]
  intro minus
  have digit := allDigits_decimalDigits value.natAbs '-' (List.mem_of_mem_head? minus)
  exact absurd digit (by decide)

/-- **An integer between the bounds is read back from its text.** -/
theorem read_write (below : low ≤ 0) (above : 0 ≤ high) {value : Int} (least : low ≤ value)
    (most : value ≤ high) : read low high (write value) = .ok value :=
  (read_eq_ok_iff below above).mpr
    ⟨spells_write value, least, most, fun zero => head?_write (zero ▸ least)⟩

end NamedConstants.IntegerText
