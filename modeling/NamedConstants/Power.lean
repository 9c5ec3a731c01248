/-!
# Powers of two, five and ten

The powers that widths, patterns and decimal notation are made of, on natural
numbers.
-/

set_option autoImplicit false

namespace NamedConstants

/-- A power of two. -/
abbrev twoTo (exponent : Nat) : Nat := Nat.pow 2 exponent

/-- A power of five. -/
abbrev fiveTo (exponent : Nat) : Nat := Nat.pow 5 exponent

/-- A power of ten. -/
abbrev tenTo (exponent : Nat) : Nat := Nat.pow 10 exponent

/-- Powers of two are positive. -/
theorem twoTo_pos (exponent : Nat) : 0 < twoTo exponent := Nat.pow_pos (by decide)

/-- Powers of five are positive. -/
theorem fiveTo_pos (exponent : Nat) : 0 < fiveTo exponent := Nat.pow_pos (by decide)

/-- Powers of ten are positive. -/
theorem tenTo_pos (exponent : Nat) : 0 < tenTo exponent := Nat.pow_pos (by decide)

/-- The next power of two is twice as large. -/
theorem twoTo_succ (exponent : Nat) : twoTo (exponent + 1) = 2 * twoTo exponent :=
  (Nat.pow_succ ..).trans (Nat.mul_comm ..)

/-- Exponents add up in a product. -/
theorem twoTo_add (first second : Nat) : twoTo (first + second) = twoTo first * twoTo second :=
  Nat.pow_add 2 first second

theorem tenTo_add (first second : Nat) : tenTo (first + second) = tenTo first * tenTo second :=
  Nat.pow_add 10 first second

/-- A power of ten is a power of two and a power of five. -/
theorem tenTo_eq (exponent : Nat) : tenTo exponent = twoTo exponent * fiveTo exponent :=
  Nat.mul_pow 2 5 exponent

/-- Powers of two grow with their exponent. -/
theorem twoTo_le {first second : Nat} (le : first ≤ second) : twoTo first ≤ twoTo second :=
  Nat.pow_le_pow_right (by decide) le

/-- Powers of five grow with their exponent. -/
theorem fiveTo_le {first second : Nat} (le : first ≤ second) : fiveTo first ≤ fiveTo second :=
  Nat.pow_le_pow_right (by decide) le

theorem tenTo_le {first second : Nat} (le : first ≤ second) : tenTo first ≤ tenTo second :=
  Nat.pow_le_pow_right (by decide) le

theorem twoTo_le_tenTo (exponent : Nat) : twoTo exponent ≤ tenTo exponent :=
  Nat.pow_le_pow_left (by decide) exponent

end NamedConstants
