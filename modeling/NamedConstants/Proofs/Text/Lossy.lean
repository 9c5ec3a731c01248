import NamedConstants.Proofs.Text.ValidUtf8

/-!
# Lenient reading in parts

What the lenient reader makes of a character, or of bytes that are none, depends
on no byte behind them that starts something new (`StartsNew`). So a sequence is
read like its two parts one after the other if it is cut in front of such a byte
(`decodeLossy_append`), in front of an ASCII character for instance. An ASCII
character is read exactly where it stands among the bytes
(`mem_decodeLossy_iff`).
-/

set_option autoImplicit false

namespace NamedConstants.Text

/-- What follows continues no character in front of it. -/
def StartsNew (bytes : Bytes) : Prop :=
  ∀ byte ∈ bytes.head?, isContinuation byte = false

/-! ## One step -/

section Steps

variable {lead : UInt8} {rest : Bytes} {c : Char} {width : Nat} (more : Bytes)

/-- A character is read whatever follows it. -/
theorem utf8Step_append_of_character (step : utf8Step lead rest = .character c width) :
    utf8Step lead (rest ++ more) = .character c width ∧ width - 1 ≤ rest.length := by
  obtain ⟨own, tail, written, read⟩ := utf8Step_encodeChar c (rest.drop (width - 1))
  obtain ⟨own', tail', written', read'⟩ := utf8Step_encodeChar c (rest.drop (width - 1) ++ more)
  have whole := encodeChar_of_utf8Step step
  rw [written, List.cons_append] at whole
  obtain ⟨rfl, split⟩ := List.cons.inj whole
  obtain ⟨rfl, rfl⟩ := List.cons.inj (written.symm.trans written')
  rw [split, step] at read
  cases read
  rw [Nat.add_sub_cancel] at split read' ⊢
  refine ⟨?_, ?_⟩
  · rw [← List.append_assoc, split] at read'
    exact read'
  · rw [← split, List.length_append]
    exact Nat.le_add_right _ _

/-- A byte that continues no character is no second byte of three or four. -/
theorem not_isSecond_of_not_isContinuation (first : Nat) {byte : UInt8}
    (new : isContinuation byte = false) :
    isSecondOfThree first byte.toNat = false ∧ isSecondOfFour first byte.toNat = false := by
  have outside : ¬(0x80 ≤ byte.toNat ∧ byte.toNat ≤ 0xBF) :=
    mt (inRange_iff _ _ _).mpr (Bool.eq_false_iff.mp new)
  constructor
  · simp only [isSecondOfThree, Bool.or_eq_false_iff, Bool.and_eq_false_iff,
      decide_eq_false_iff_not]
    omega
  · simp only [isSecondOfFour, Bool.or_eq_false_iff, Bool.and_eq_false_iff,
      decide_eq_false_iff_not]
    omega

theorem stepTwo_append_of_invalid {first : Nat} (step : stepTwo first rest = .invalid width) :
    stepTwo first (rest ++ more) = .invalid width ∧ width - 1 ≤ rest.length := by
  unfold stepTwo at *
  grind

theorem stepThree_append_of_invalid {first : Nat} (step : stepThree first rest = .invalid width) :
    stepThree first (rest ++ more) = .invalid width ∧ width - 1 ≤ rest.length := by
  unfold stepThree at *
  grind

theorem stepFour_append_of_invalid {first : Nat} (step : stepFour first rest = .invalid width) :
    stepFour first (rest ++ more) = .invalid width ∧ width - 1 ≤ rest.length := by
  unfold stepFour at *
  grind

/-- The first byte alone decides how the bytes behind it are read. -/
theorem utf8Step_cases (lead : UInt8) :
    (∀ rest, utf8Step lead rest = .character (Char.ofNat lead.toNat) 1) ∨
      (∀ rest, utf8Step lead rest = stepTwo lead.toNat rest) ∨
      (∀ rest, utf8Step lead rest = stepThree lead.toNat rest) ∨
      (∀ rest, utf8Step lead rest = stepFour lead.toNat rest) ∨
      ∀ rest, utf8Step lead rest = .invalid 1 := by
  by_cases one : lead.toNat < 0x80
  · exact .inl fun rest => if_pos one
  by_cases two : 0xC2 ≤ lead.toNat ∧ lead.toNat ≤ 0xDF
  · exact .inr (.inl fun rest => by simp [utf8Step, one, two])
  by_cases three : 0xE0 ≤ lead.toNat ∧ lead.toNat ≤ 0xEF
  · exact .inr (.inr (.inl fun rest => by simp [utf8Step, one, two, three]))
  by_cases four : 0xF0 ≤ lead.toNat ∧ lead.toNat ≤ 0xF4
  · exact .inr (.inr (.inr (.inl fun rest => by simp [utf8Step, one, two, three, four])))
  · exact .inr (.inr (.inr (.inr fun rest => by simp [utf8Step, one, two, three, four])))

/-- Bytes that are no character are as many whatever follows them. -/
theorem utf8Step_append_of_invalid (step : utf8Step lead rest = .invalid width) :
    utf8Step lead (rest ++ more) = .invalid width ∧ width - 1 ≤ rest.length := by
  rcases utf8Step_cases lead with one | two | three | four | none
  · rw [one] at step
    cases step
  · rw [two] at step ⊢
    exact stepTwo_append_of_invalid more step
  · rw [three] at step ⊢
    exact stepThree_append_of_invalid more step
  · rw [four] at step ⊢
    exact stepFour_append_of_invalid more step
  · rw [none] at step ⊢
    cases step
    exact ⟨rfl, Nat.zero_le _⟩

section CutOff

variable {first : Nat} {byte : UInt8} (new : isContinuation byte = false)

include new

theorem stepTwo_append_of_incomplete (step : stepTwo first rest = .incomplete) :
    stepTwo first (rest ++ byte :: more) = .invalid (rest.length + 1) := by
  unfold stepTwo at *
  grind

theorem stepThree_append_of_incomplete (step : stepThree first rest = .incomplete) :
    stepThree first (rest ++ byte :: more) = .invalid (rest.length + 1) := by
  have second := (not_isSecond_of_not_isContinuation first new).1
  unfold stepThree at *
  grind

theorem stepFour_append_of_incomplete (step : stepFour first rest = .incomplete) :
    stepFour first (rest ++ byte :: more) = .invalid (rest.length + 1) := by
  have second := (not_isSecond_of_not_isContinuation first new).2
  unfold stepFour at *
  grind

/-- A character that is cut off is none if something new follows. -/
theorem utf8Step_append_of_incomplete (step : utf8Step lead rest = .incomplete) :
    utf8Step lead (rest ++ byte :: more) = .invalid (rest.length + 1) := by
  rcases utf8Step_cases lead with one | two | three | four | none
  · rw [one] at step
    cases step
  · rw [two] at step ⊢
    exact stepTwo_append_of_incomplete more new step
  · rw [three] at step ⊢
    exact stepThree_append_of_incomplete more new step
  · rw [four] at step ⊢
    exact stepFour_append_of_incomplete more new step
  · rw [none] at step
    cases step

end CutOff

end Steps

/-! ## Whole sequences -/

/-- **A sequence is read in parts where something new starts.** -/
theorem decodeLossy_append (front : Bytes) {rest : Bytes} (new : StartsNew rest) :
    decodeLossy (front ++ rest) = decodeLossy front ++ decodeLossy rest := by
  fun_induction decodeLossy front with
  | case1 => rfl
  | case2 lead front c width step ih =>
      obtain ⟨here, within⟩ := utf8Step_append_of_character rest step
      rw [List.cons_append, decodeLossy, here]
      dsimp only
      rw [List.drop_append_of_le_length within, ih, List.cons_append]
  | case3 lead front width step ih =>
      obtain ⟨here, within⟩ := utf8Step_append_of_invalid rest step
      rw [List.cons_append, decodeLossy, here]
      dsimp only
      rw [List.drop_append_of_le_length within, ih, List.cons_append]
  | case4 lead front step =>
      cases rest with
      | nil =>
          have ends : decodeLossy (lead :: front) = [replacement] := by
            rw [decodeLossy, step]
          rw [List.append_nil, ends, decodeLossy, List.append_nil]
      | cons byte rest =>
          have here := utf8Step_append_of_incomplete rest (new byte rfl) step
          rw [List.cons_append, decodeLossy, here]
          dsimp only
          rw [Nat.add_sub_cancel, List.drop_left]
          rfl

/-- A byte that continues a character is none in front of others. -/
theorem utf8Step_of_isContinuation {lead : UInt8} (next : isContinuation lead = true)
    (rest : Bytes) : utf8Step lead rest = .invalid 1 := by
  have range := (inRange_iff _ _ _).mp next
  rw [utf8Step, if_neg (by omega), if_neg (mt (inRange_iff _ _ _).mp (by omega)),
    if_neg (mt (inRange_iff _ _ _).mp (by omega)), if_neg (mt (inRange_iff _ _ _).mp (by omega))]

/-- A text starts something new. -/
theorem startsNew_encode (text : List Char) : StartsNew (encode text) := by
  cases text with
  | nil => rintro byte ⟨⟩
  | cons c text =>
      obtain ⟨lead, more, written, step⟩ := utf8Step_encodeChar c []
      rw [encode_cons, written]
      rintro byte ⟨⟩
      refine Bool.eq_false_iff.mpr fun next => ?_
      rw [utf8Step_of_isContinuation next] at step
      cases step

/-! ## ASCII characters -/

theorem startsNew_cons_of_ascii {byte : UInt8} (ascii : byte.toNat < 0x80) (rest : Bytes) :
    StartsNew (byte :: rest) := by
  rintro first ⟨⟩
  exact Bool.eq_false_iff.mpr fun next => absurd ((inRange_iff _ _ _).mp next).1 (by omega)

theorem decodeLossy_cons_of_ascii {byte : UInt8} (ascii : byte.toNat < 0x80) (rest : Bytes) :
    decodeLossy (byte :: rest) = Char.ofNat byte.toNat :: decodeLossy rest := by
  have step : utf8Step byte rest = .character (Char.ofNat byte.toNat) 1 := if_pos ascii
  rw [decodeLossy, step]
  rfl

theorem replacement_ne_of_ascii {byte : UInt8} (ascii : byte.toNat < 0x80) :
    Char.ofNat byte.toNat ≠ replacement := by
  intro same
  have value := congrArg Char.toNat same
  rw [toNat_ofNat (.inl (by omega))] at value
  have far : replacement.toNat = 0xFFFD := rfl
  omega

/-- **An ASCII character is read exactly where it stands among the bytes.** -/
theorem mem_decodeLossy_iff {byte : UInt8} (ascii : byte.toNat < 0x80) {bytes : Bytes} :
    Char.ofNat byte.toNat ∈ decodeLossy bytes ↔ byte ∈ bytes := by
  constructor
  · intro read
    fun_induction decodeLossy bytes with
    | case1 => cases read
    | case2 lead rest c width step ih =>
        rcases List.mem_cons.mp read with rfl | later
        · -- the bytes in front are those of the character
          have own := encodeChar_of_utf8Step step
          rw [encodeChar_one ascii, UInt8.ofNat_toNat] at own
          exact (List.cons.inj own).1 ▸ List.mem_cons_self
        · exact List.mem_cons_of_mem _ (List.mem_of_mem_drop (ih later))
    | case3 lead rest width step ih =>
        rcases List.mem_cons.mp read with same | later
        · exact absurd same (replacement_ne_of_ascii ascii)
        · exact List.mem_cons_of_mem _ (List.mem_of_mem_drop (ih later))
    | case4 lead rest step =>
        exact absurd (List.mem_singleton.mp read) (replacement_ne_of_ascii ascii)
  · intro stands
    obtain ⟨front, rest, rfl⟩ := List.append_of_mem stands
    rw [decodeLossy_append front (startsNew_cons_of_ascii ascii rest),
      decodeLossy_cons_of_ascii ascii]
    exact List.mem_append_right _ List.mem_cons_self

end NamedConstants.Text
