import NamedConstants.Text.Blank
import NamedConstants.Text.Letter

/-!
# Letters and blanks

Two sets of characters that are given by ranges have nothing in common if no range
of the one meets a range of the other (`Ranges.not_contains_of_areDisjoint`). So blanks
are no letters and no numbers (`isBlank_of_isAlphanumeric`), and none stands in an
identifier (`isBlank_of_isIdentifierContinue`).
-/

set_option autoImplicit false

namespace NamedConstants.Text

/-- What holds of the first 128 characters holds of each ASCII character. -/
theorem of_ascii {motive : Char → Prop} (all : ∀ n < 0x80, motive (Char.ofNat n)) {c : Char}
    (ascii : c.toNat < 0x80) : motive c := by
  have own := all c.toNat ascii
  rwa [Char.ofNat_toNat] at own

/-- A digit is an ASCII character. -/
theorem ascii_of_isDigit {c : Char} (digit : c.isDigit = true) : c.toNat < 0x80 := by
  have below : c.val ≤ 57 := of_decide_eq_true (Bool.and_eq_true_iff.mp digit).2
  exact Nat.lt_of_le_of_lt (UInt32.le_iff_toNat_le.mp below) (by decide)

/-- A letter from `a` to `z` is an ASCII character. -/
theorem ascii_of_isLower {c : Char} (small : c.isLower = true) : c.toNat < 0x80 := by
  have below : c.val ≤ 122 := of_decide_eq_true (Bool.and_eq_true_iff.mp small).2
  exact Nat.lt_of_le_of_lt (UInt32.le_iff_toNat_le.mp below) (by decide)

/-- No range meets a range of the other list. -/
def Ranges.areDisjoint (first second : Ranges) : Bool :=
  first.all fun range => second.all fun other => range.2 < other.1 || other.2 < range.1

theorem Ranges.not_contains_of_areDisjoint {first second : Ranges}
    (disjoint : first.areDisjoint second = true) {point : Nat}
    (inside : first.contains point = true) : second.contains point = false := by
  obtain ⟨range, listed, within⟩ := List.any_eq_true.mp inside
  refine List.any_eq_false.mpr fun other present meets => ?_
  have apart := List.all_eq_true.mp (List.all_eq_true.mp disjoint range listed) other present
  simp only [Bool.and_eq_true, Bool.or_eq_true, decide_eq_true_eq] at within meets apart
  omega

/-- No blank is a letter or a number. -/
theorem isBlank_of_isAlphanumeric {c : Char} (own : isAlphanumeric c = true) :
    isBlank c = false := by
  have apart : blankRanges.areDisjoint alphanumericRanges = true := by decide +kernel
  by_cases ascii : c.toNat < 0x80
  · exact of_ascii (motive := fun c => isAlphanumeric c = true → isBlank c = false)
      (by decide +kernel) ascii own
  · rw [isAlphanumeric, if_neg ascii] at own
    refine Bool.eq_false_iff.mpr fun blank => ?_
    rw [Ranges.not_contains_of_areDisjoint apart blank] at own
    exact Bool.false_ne_true own

/-- No blank stands in an identifier. -/
theorem isBlank_of_isIdentifierContinue {c : Char} (own : isIdentifierContinue c = true) :
    isBlank c = false := by
  have starts : blankRanges.areDisjoint identifierStartRanges = true := by decide +kernel
  have continues : blankRanges.areDisjoint identifierContinueRanges = true := by decide +kernel
  by_cases ascii : c.toNat < 0x80
  · exact of_ascii (motive := fun c => isIdentifierContinue c = true → isBlank c = false)
      (by decide +kernel) ascii own
  · rw [isIdentifierContinue, if_neg ascii] at own
    refine Bool.eq_false_iff.mpr fun blank => ?_
    rw [Ranges.not_contains_of_areDisjoint starts blank,
      Ranges.not_contains_of_areDisjoint continues blank] at own
    exact Bool.false_ne_true own

end NamedConstants.Text
