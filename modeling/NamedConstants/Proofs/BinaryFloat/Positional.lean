import NamedConstants.Proofs.Text.DecimalDigits

/-!
# The parts of a positional text

A decimal is written as digits in front of a point and digits behind it, and the
point is left out where no digit follows (`positional_of_whole`,
`positional_of_fraction`). There are as many digits behind the point as the
exponent says, and all the digits together spell the digits of the decimal, with
the zeros that the exponent adds (`ofDigitChars_parts`). A zero in front stands
alone (`leadingZero_whole`).
-/

set_option autoImplicit false

namespace NamedConstants.Decimal

/-- The digits in front of the point. -/
def whole (decimal : Decimal) : List Char :=
  let digits := decimalDigits decimal.digits
  let places := (-decimal.exponent).toNat
  if places = 0 then digits ++ List.replicate decimal.exponent.toNat '0'
  else if places < digits.length then digits.take (digits.length - places)
  else ['0']

/-- The digits behind the point. -/
def fraction (decimal : Decimal) : List Char :=
  let digits := decimalDigits decimal.digits
  let places := (-decimal.exponent).toNat
  if places = 0 then []
  else if places < digits.length then digits.drop (digits.length - places)
  else List.replicate (places - digits.length) '0' ++ digits

variable (decimal : Decimal)

/-! ## The text -/

theorem positional_of_whole (above : 0 ≤ decimal.exponent) :
    decimal.positional = decimal.whole := by
  have none : (-decimal.exponent).toNat = 0 := by omega
  simp only [positional, whole, if_pos above, none, if_true]

theorem positional_of_fraction (below : decimal.exponent < 0) :
    decimal.positional = decimal.whole ++ '.' :: decimal.fraction := by
  have some : (-decimal.exponent).toNat ≠ 0 := by omega
  simp only [positional, whole, fraction, if_neg (Int.not_le.mpr below), some, if_false]
  split
  · rfl
  · rfl

/-! ## Its digits -/

theorem allDigits_whole : AllDigits decimal.whole := by
  have digits := allDigits_decimalDigits decimal.digits
  unfold whole
  dsimp only
  split
  · exact digits.append (AllDigits.replicate_zero _)
  · split
    · exact fun c member => digits c (List.mem_of_mem_take member)
    · exact AllDigits.replicate_zero 1

theorem allDigits_fraction : AllDigits decimal.fraction := by
  have digits := allDigits_decimalDigits decimal.digits
  unfold fraction
  dsimp only
  split
  · exact AllDigits.nil
  · split
    · exact fun c member => digits c (List.mem_of_mem_drop member)
    · exact (AllDigits.replicate_zero _).append digits

theorem whole_ne_nil : decimal.whole ≠ [] := by
  have written := decimalDigits_ne_nil decimal.digits
  unfold whole
  dsimp only
  split
  · exact List.append_ne_nil_of_left_ne_nil written _
  · split
    · intro none
      rw [List.take_eq_nil_iff] at none
      rcases none with short | none
      · omega
      · exact written none
    · exact List.cons_ne_nil _ _

theorem length_fraction : decimal.fraction.length = (-decimal.exponent).toNat := by
  unfold fraction
  dsimp only
  split
  · next none => exact none.symm
  · split
    · rw [List.length_drop]
      omega
    · rw [List.length_append, List.length_replicate]
      omega

/-- The text consists of digits and a point. -/
theorem isDigit_or_point_of_mem_positional {c : Char} (written : c ∈ decimal.positional) :
    c.isDigit = true ∨ c = '.' := by
  rcases Int.lt_or_le decimal.exponent 0 with below | above
  · rw [decimal.positional_of_fraction below, List.mem_append, List.mem_cons] at written
    rcases written with front | rfl | back
    · exact Or.inl (decimal.allDigits_whole c front)
    · exact Or.inr rfl
    · exact Or.inl (decimal.allDigits_fraction c back)
  · rw [decimal.positional_of_whole above] at written
    exact Or.inl (decimal.allDigits_whole c written)

/-- A zero in front of the point is the only digit there. -/
theorem leadingZero_whole (nonzero : decimal.digits ≠ 0) :
    (decimal.whole.head? == some '0' && decimal.whole.length != 1) = false := by
  have first : (decimalDigits decimal.digits).head? ≠ some '0' := fun zero =>
    nonzero (eq_zero_of_head_decimalDigits zero)
  rw [Bool.and_eq_false_iff, beq_eq_false_iff_ne]
  unfold whole
  dsimp only
  split
  · obtain ⟨c, rest, text⟩ := List.exists_cons_of_ne_nil (decimalDigits_ne_nil decimal.digits)
    rw [text] at first ⊢
    exact Or.inl first
  · split
    · next places =>
        rw [List.head?_take, if_neg (by omega)]
        exact Or.inl first
    · exact Or.inr rfl

/-- The text starts with a digit. -/
theorem exists_positional_eq_cons :
    ∃ c rest, decimal.positional = c :: rest ∧ c.isDigit = true := by
  obtain ⟨c, rest, text⟩ := List.exists_cons_of_ne_nil decimal.whole_ne_nil
  have digit : c.isDigit = true := decimal.allDigits_whole c (text ▸ List.mem_cons_self)
  rcases Int.lt_or_le decimal.exponent 0 with below | above
  · rw [decimal.positional_of_fraction below, text]
    exact ⟨c, _, rfl, digit⟩
  · exact ⟨c, rest, (decimal.positional_of_whole above).trans text, digit⟩

/-- **The digits on both sides of the point spell the digits of the decimal.** -/
theorem ofDigitChars_parts :
    Nat.ofDigitChars 10 (decimal.whole ++ decimal.fraction) 0 =
      decimal.digits * tenTo decimal.exponent.toNat := by
  have spelled : Nat.ofDigitChars 10 (decimalDigits decimal.digits) 0 = decimal.digits :=
    digitsValue_decimalDigits decimal.digits
  unfold whole fraction
  dsimp only
  split
  · rw [List.append_nil, Nat.ofDigitChars_append, spelled, Nat.ofDigitChars_replicate_zero,
      Nat.mul_comm]
    rfl
  · have unscaled : decimal.exponent.toNat = 0 := by omega
    rw [unscaled, show tenTo 0 = 1 from rfl, Nat.mul_one]
    split
    · rw [List.take_append_drop, spelled]
    · have zeros : ['0'] = List.replicate 1 '0' := rfl
      rw [← List.append_assoc, Nat.ofDigitChars_append, zeros, List.replicate_append_replicate,
        Nat.ofDigitChars_replicate_zero, Nat.mul_zero, spelled]

end NamedConstants.Decimal
