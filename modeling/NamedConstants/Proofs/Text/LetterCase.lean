import NamedConstants.Proofs.Text.Letter
import NamedConstants.Text.LetterCase

/-!
# Lower case is settled

Lower-casing a text twice is lower-casing it once (`toLower_toLower`). The table
of runs is closed: no run sends a code point into another run, or onto the one
capital that has no run (`isSettled_image`). What is left to check for each pair
of runs is a matter of their ends and of their parity (`CaseRun.misses`).
-/

set_option autoImplicit false

namespace NamedConstants.Text

/-- No mapping to lower case touches the code point. -/
def IsSettled (point : Nat) : Prop :=
  point ≠ 'İ'.toNat ∧ ∀ run ∈ lowerRuns, run.covers point = false

instance : DecidablePred IsSettled := fun point =>
  inferInstanceAs (Decidable (point ≠ 'İ'.toNat ∧ ∀ run ∈ lowerRuns, run.covers point = false))

/-! ## Runs that miss each other -/

namespace CaseRun

/-- The image of a point of the run. -/
def image (run : CaseRun) (point : Nat) : Nat :=
  (point + run.shift).toNat

/-- The image of the run lies before another run, or behind it, or between its
points. -/
def misses (run other : CaseRun) : Bool :=
  Nat.blt (run.image run.last) other.first || Nat.blt other.last (run.image run.first) ||
    ((run.step % 2 == 0 || run.first == run.last) && other.step % 2 == 0 &&
      Nat.blt 0 (run.image run.first) && (run.image run.first + other.first) % 2 == 1)

theorem covers_iff (run : CaseRun) (point : Nat) :
    run.covers point = true ↔
      run.first ≤ point ∧ point ≤ run.last ∧ run.step ∣ point - run.first := by
  rw [covers, Bool.and_eq_true, Bool.and_eq_true, decide_eq_true_iff, decide_eq_true_iff,
    beq_iff_eq, and_assoc, Nat.dvd_iff_mod_eq_zero]

/-- A step of even length stays in one parity. -/
theorem mod_two_of_dvd {step distance : Nat} (even : step % 2 = 0) (whole : step ∣ distance) :
    distance % 2 = 0 :=
  Nat.mod_eq_zero_of_dvd (Nat.dvd_trans (Nat.dvd_of_mod_eq_zero even) whole)

theorem not_covers_of_misses {run other : CaseRun} (apart : run.misses other = true)
    {point : Nat} (covered : run.covers point = true) :
    other.covers (run.image point) = false := by
  obtain ⟨above, below, whole⟩ := (covers_iff run point).mp covered
  rw [Bool.eq_false_iff, Ne, covers_iff]
  rintro ⟨above', below', whole'⟩
  simp only [misses, Bool.and_eq_true, Bool.or_eq_true, Nat.blt_eq, beq_iff_eq] at apart
  unfold image at above' below' whole' apart
  rcases apart with (before | behind) | ⟨⟨⟨own, even'⟩, positive⟩, odd⟩
  · omega
  · omega
  · -- In its own run the point has the parity of the first one, in the other it has not.
    have parity' := mod_two_of_dvd even' whole'
    have parity : (point - run.first) % 2 = 0 := by
      rcases own with even | single
      · exact mod_two_of_dvd even whole
      · omega
    omega

end CaseRun

/-! ## The table is closed -/

theorem lowerRuns_miss :
    (lowerRuns.all fun run =>
      run.misses ⟨0x130, 0x130, 1, 0⟩ && lowerRuns.all fun other => run.misses other) = true := by
  decide +kernel

theorem isSettled_image {run : CaseRun} (listed : run ∈ lowerRuns) {point : Nat}
    (covered : run.covers point = true) : IsSettled (run.image point) := by
  have apart := List.all_eq_true.mp lowerRuns_miss run listed
  rw [Bool.and_eq_true, List.all_eq_true] at apart
  constructor
  · intro dotted
    have missed := CaseRun.not_covers_of_misses apart.1 covered
    rw [dotted] at missed
    exact absurd missed (by decide)
  · exact fun other listed' => CaseRun.not_covers_of_misses (apart.2 other listed') covered

/-! ## Characters -/

theorem isSettled_of_uncovered {c : Char} (dotless : c ≠ 'İ')
    (uncovered : lowerRuns.find? (·.covers c.toNat) = none) : IsSettled c.toNat := by
  constructor
  · exact fun same => dotless (Char.toNat_inj.mp same)
  · intro run listed
    exact Bool.eq_false_iff.mpr (List.find?_eq_none.mp uncovered run listed)

theorem shiftBy_of_isSettled {c : Char} (settled : IsSettled c.toNat) :
    shiftBy lowerRuns c = c := by
  have uncovered : lowerRuns.find? (·.covers c.toNat) = none :=
    List.find?_eq_none.mpr fun run listed => Bool.eq_false_iff.mp (settled.2 run listed)
  rw [shiftBy, uncovered]

/-- In the ASCII range the table says the same. -/
theorem toLower_eq_shiftBy {c : Char} (ascii : c.toNat < 0x80) :
    c.toLower = shiftBy lowerRuns c :=
  of_ascii (motive := fun c => c.toLower = shiftBy lowerRuns c) (by decide +kernel) ascii

theorem lowerChar_eq {c : Char} (dotless : c ≠ 'İ') : lowerChar c = [shiftBy lowerRuns c] := by
  unfold lowerChar
  by_cases ascii : c.toNat < 0x80
  · rw [if_pos ascii, toLower_eq_shiftBy ascii]
  · rw [if_neg ascii, if_neg (by simpa using dotless)]

/-- A code point that is no character stands for the first one. -/
theorem isSettled_ofNat {point : Nat} (settled : IsSettled point) :
    IsSettled (Char.ofNat point).toNat := by
  by_cases valid : point.isValidChar
  · rw [Char.ofNat, dif_pos valid]
    exact settled
  · rw [Char.ofNat, dif_neg valid]
    decide +kernel

theorem isSettled_shiftBy {c : Char} (dotless : c ≠ 'İ') :
    IsSettled (shiftBy lowerRuns c).toNat := by
  unfold shiftBy
  cases found : lowerRuns.find? (·.covers c.toNat) with
  | none => exact isSettled_of_uncovered dotless found
  | some run =>
      have covered : run.covers c.toNat = true :=
        List.find?_some (p := fun run : CaseRun => run.covers c.toNat) found
      have settled := isSettled_image (List.mem_of_find?_eq_some found) covered
      exact isSettled_ofNat settled

theorem isSettled_of_mem_lowerChar {c d : Char} (mem : d ∈ lowerChar c) :
    IsSettled d.toNat := by
  by_cases dotted : c = 'İ'
  · subst dotted
    have images : lowerChar 'İ' = ['i', '\u0307'] := rfl
    rw [images, List.mem_cons, List.mem_singleton] at mem
    rcases mem with rfl | rfl
    · decide +kernel
    · decide +kernel
  · rw [lowerChar_eq dotted, List.mem_singleton] at mem
    rw [mem]
    exact isSettled_shiftBy dotted

theorem lowerChar_of_isSettled {c : Char} (settled : IsSettled c.toNat) : lowerChar c = [c] := by
  have dotless : c ≠ 'İ' := fun same => settled.1 (congrArg Char.toNat same)
  rw [lowerChar_eq dotless, shiftBy_of_isSettled settled]

/-! ## Texts -/

theorem toLower_go_of_isSettled (before : List Char) {text : List Char}
    (settled : ∀ c ∈ text, IsSettled c.toNat) : toLower.go before text = text := by
  induction text generalizing before with
  | nil => rfl
  | cons c text ih =>
      have head := settled c List.mem_cons_self
      have sigma : ¬(c == 'Σ') = true := by
        rw [beq_iff_eq]
        rintro rfl
        exact absurd head (by decide +kernel)
      have tail := ih (c :: before) fun d mem => settled d (List.mem_cons_of_mem c mem)
      rw [toLower.go, if_neg sigma, lowerChar_of_isSettled head, tail, List.singleton_append]

theorem isSettled_of_mem_toLower_go (before text : List Char) {d : Char}
    (mem : d ∈ toLower.go before text) : IsSettled d.toNat := by
  induction text generalizing before with
  | nil => exact absurd mem List.not_mem_nil
  | cons c text ih =>
      rw [toLower.go, List.mem_append] at mem
      rcases mem with head | tail
      · split at head
        · -- Both forms of the small sigma are settled.
          split at head
          · rw [List.mem_singleton.mp head]
            decide +kernel
          · rw [List.mem_singleton.mp head]
            decide +kernel
        · exact isSettled_of_mem_lowerChar head
      · exact ih (c :: before) tail

/-- **Lower case does not change when it is taken again.** -/
theorem toLower_toLower (text : List Char) : toLower (toLower text) = toLower text :=
  toLower_go_of_isSettled [] fun _ mem => isSettled_of_mem_toLower_go [] text mem

end NamedConstants.Text
