import NamedConstants.BinaryFloat.Text

/-!
# Decimal digits

The digits of a natural number are digits, at least one, the first of them is a
zero only for zero itself, and together they spell the number
(`digitsValue_decimalDigits`); no other digits without a zero in front spell it
(`decimalDigits_digitsValue`). A run of digits ends where the first other
character stands (`spanDigits_append`), so what is written in front of such a
character can be told from what follows it (`digits_append_inj`).
-/

set_option autoImplicit false

namespace NamedConstants

open BinaryFloat (digitsValue spanDigits)

/-- A text that consists of digits. -/
def AllDigits (text : List Char) : Prop :=
  ∀ c ∈ text, c.isDigit = true

/-- A text that does not go on with a digit. -/
def EndsDigits (text : List Char) : Prop :=
  ∀ c ∈ text.head?, c.isDigit = false

namespace AllDigits

theorem nil : AllDigits [] := by
  intro c member
  cases member

theorem cons {c : Char} {text : List Char} (digit : c.isDigit = true) (digits : AllDigits text) :
    AllDigits (c :: text) := by
  intro d member
  rcases List.mem_cons.mp member with rfl | later
  · exact digit
  · exact digits d later

theorem append {first second : List Char} (left : AllDigits first) (right : AllDigits second) :
    AllDigits (first ++ second) := by
  intro c member
  rcases List.mem_append.mp member with earlier | later
  · exact left c earlier
  · exact right c later

theorem replicate_zero (count : Nat) : AllDigits (List.replicate count '0') := by
  intro c member
  rw [List.eq_of_mem_replicate member]
  rfl

theorem tail {c : Char} {text : List Char} (digits : AllDigits (c :: text)) : AllDigits text :=
  fun d member => digits d (List.mem_cons_of_mem c member)

theorem head {c : Char} {text : List Char} (digits : AllDigits (c :: text)) : c.isDigit = true :=
  digits c List.mem_cons_self

end AllDigits

theorem EndsDigits.nil : EndsDigits [] := by
  intro c member
  cases member

theorem EndsDigits.cons {c : Char} {text : List Char} (other : c.isDigit = false) :
    EndsDigits (c :: text) := by
  intro d member
  rw [List.head?_cons, Option.mem_some_iff] at member
  rw [← member]
  exact other

/-! ## The digits of a number -/

theorem allDigits_decimalDigits (n : Nat) : AllDigits (decimalDigits n) :=
  fun _ member => Nat.isDigit_of_mem_toDigits (by decide) (by decide) member

theorem decimalDigits_ne_nil (n : Nat) : decimalDigits n ≠ [] :=
  Nat.toDigits_ne_nil

theorem digitsValue_eq (digits : List Char) : digitsValue digits = Nat.ofDigitChars 10 digits 0 :=
  rfl

/-- **The digits of a number spell it.** -/
theorem digitsValue_decimalDigits (n : Nat) : digitsValue (decimalDigits n) = n :=
  Nat.ofDigitChars_ten_toDigits

/-- More digits never make a number smaller. -/
theorem le_ofDigitChars (value : Nat) (text : List Char) :
    value ≤ Nat.ofDigitChars 10 text value := by
  induction text generalizing value with
  | nil => exact Nat.le_of_eq Nat.ofDigitChars_nil.symm
  | cons c text ih =>
      rw [Nat.ofDigitChars_cons]
      exact Nat.le_trans (by omega) (ih _)

/-- Only zero is written with a zero in front. -/
theorem eq_zero_of_head_decimalDigits {n : Nat} (zero : (decimalDigits n).head? = some '0') :
    n = 0 := by
  induction n using Nat.strongRecOn with
  | ind n ih =>
      by_cases small : n < 10
      · rw [decimalDigits, Nat.toDigits_of_lt_base small, List.head?_cons] at zero
        have value := Nat.toNat_digitChar_sub_48_of_lt_ten small
        rw [Option.some.inj zero] at value
        exact value.symm
      · have split : decimalDigits n = decimalDigits (n / 10) ++ [(n % 10).digitChar] :=
          Nat.toDigits_of_base_le (by decide) (by omega)
        obtain ⟨first, more, digits⟩ := List.exists_cons_of_ne_nil (decimalDigits_ne_nil (n / 10))
        rw [split, digits, List.cons_append, List.head?_cons] at zero
        have front := ih (n / 10) (by omega) (by rw [digits, List.head?_cons, zero])
        omega

/-- The digits of a number that is not zero start with another digit than zero. -/
theorem decimalDigits_eq_cons {n : Nat} (nonzero : n ≠ 0) :
    ∃ c rest, decimalDigits n = c :: rest ∧ c ≠ '0' := by
  obtain ⟨c, rest, text⟩ := List.exists_cons_of_ne_nil (decimalDigits_ne_nil n)
  refine ⟨c, rest, text, ?_⟩
  rintro rfl
  exact nonzero (eq_zero_of_head_decimalDigits (by rw [text, List.head?_cons]))

/-! ## The number of digits -/

theorem toNat_of_isDigit {c : Char} (digit : c.isDigit = true) : 48 ≤ c.toNat ∧ c.toNat ≤ 57 := by
  rw [Char.isDigit, Bool.and_eq_true, decide_eq_true_iff, decide_eq_true_iff] at digit
  exact digit

/-- A digit is the one of its value. -/
theorem digitChar_of_isDigit {c : Char} (digit : c.isDigit = true) :
    Nat.digitChar (c.toNat - 48) = c := by
  obtain ⟨least, most⟩ := toNat_of_isDigit digit
  rw [← Char.toNat_inj, Nat.toNat_digitChar_of_lt_ten (by omega)]
  omega

/-- One more digit stands behind the digits of a number that is not zero. -/
theorem decimalDigits_concat {n : Nat} (nonzero : n ≠ 0) {c : Char} (digit : c.isDigit = true) :
    decimalDigits (10 * n + (c.toNat - 48)) = decimalDigits n ++ [c] := by
  obtain ⟨least, most⟩ := toNat_of_isDigit digit
  have front : (10 * n + (c.toNat - 48)) / 10 = n := by omega
  have last : (10 * n + (c.toNat - 48)) % 10 = c.toNat - 48 := by omega
  rw [decimalDigits, Nat.toDigits_of_base_le (by decide) (by omega), front, last,
    digitChar_of_isDigit digit, decimalDigits]

theorem decimalDigits_ofDigitChars {n : Nat} (nonzero : n ≠ 0) {rest : List Char}
    (all : AllDigits rest) : decimalDigits (Nat.ofDigitChars 10 rest n) = decimalDigits n ++ rest := by
  induction rest generalizing n with
  | nil => exact (List.append_nil _).symm
  | cons c rest ih =>
      rw [Nat.ofDigitChars_cons, show '0'.toNat = 48 from rfl, ih (by omega) all.tail,
        decimalDigits_concat nonzero all.head, List.append_assoc, List.singleton_append]

/-- **Digits without a zero in front are the digits of the number that they spell.** -/
theorem decimalDigits_digitsValue {c : Char} {rest : List Char} (all : AllDigits (c :: rest))
    (nonzero : c ≠ '0') : decimalDigits (digitsValue (c :: rest)) = c :: rest := by
  obtain ⟨least, most⟩ := toNat_of_isDigit all.head
  have positive : c.toNat - 48 ≠ 0 := by
    intro zero
    have same : c.toNat = '0'.toNat := by
      rw [show '0'.toNat = 48 from rfl]
      omega
    exact nonzero (Char.toNat_inj.mp same)
  have first : decimalDigits (c.toNat - 48) = [c] := by
    rw [decimalDigits, Nat.toDigits_of_lt_base (by omega), digitChar_of_isDigit all.head]
  rw [digitsValue_eq, Nat.ofDigitChars_cons, show '0'.toNat = 48 from rfl, Nat.mul_zero, Nat.zero_add,
    decimalDigits_ofDigitChars positive all.tail, first, List.singleton_append]

/-! ## Runs of digits -/

/-- Digits are taken off the front as far as they reach. -/
theorem spanDigits_append {digits rest : List Char} (all : AllDigits digits)
    (ends : EndsDigits rest) : spanDigits (digits ++ rest) = (digits, rest) := by
  induction digits with
  | nil =>
      cases rest with
      | nil => rfl
      | cons c rest =>
          have other := ends c rfl
          simp only [spanDigits, List.nil_append, List.takeWhile_cons, List.dropWhile_cons, other,
            Bool.false_eq_true, if_false]
  | cons d digits ih =>
      have shorter := Prod.mk.inj (ih all.tail)
      simp only [spanDigits, List.cons_append, List.takeWhile_cons, List.dropWhile_cons, all.head,
        if_true, shorter]

/-- Digits and what follows them can be told apart. -/
theorem digits_append_inj {digits digits' rest rest' : List Char} (all : AllDigits digits)
    (all' : AllDigits digits') (ends : EndsDigits rest) (ends' : EndsDigits rest')
    (same : digits ++ rest = digits' ++ rest') : digits = digits' ∧ rest = rest' := by
  have split := spanDigits_append all ends
  rw [same, spanDigits_append all' ends'] at split
  exact ⟨(Prod.mk.inj split).1.symm, (Prod.mk.inj split).2.symm⟩

end NamedConstants
