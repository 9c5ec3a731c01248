import NamedConstants.Proofs.Text.LetterCase

/-!
# Characters that no letter turns into

A character is caseless if no run, no sequence and no form of a letter has it as an
image (`IsCaseless`). The line feed and the underscore are caseless. A caseless character
of a text in lower or upper case stands in the text (`mem_of_mem_toLower`,
`mem_of_mem_toUpper`). A text in another case is never shorter than the text
(`length_le_toLower`, `length_le_toUpper`), so the two ways of writing a text share what
is needed of them here (`IsCasing`).

A text in upper case has no small ASCII letters (`isLower_of_mem_toUpper`), and for ASCII
texts the upper case does not depend on a lower case taken before (`toUpper_toLower`).
-/

set_option autoImplicit false

namespace NamedConstants.Text

/-! ## Runs -/

/-- The images of the runs lie before the character or behind it. -/
def IsApart (runs : List CaseRun) (c : Char) : Prop :=
  c ≠ '\x00' ∧ ∀ run ∈ runs, run.image run.last < c.toNat ∨ c.toNat < run.image run.first

instance (runs : List CaseRun) : DecidablePred (IsApart runs) := fun c =>
  inferInstanceAs (Decidable (c ≠ '\x00' ∧
    ∀ run ∈ runs, run.image run.last < c.toNat ∨ c.toNat < run.image run.first))

/-- Nothing else is shifted to a character that is apart from the images. -/
theorem eq_of_shiftBy {runs : List CaseRun} {c d : Char} (apart : IsApart runs d)
    (shifted : shiftBy runs c = d) : c = d := by
  unfold shiftBy at shifted
  split at shifted
  · rename_i run found
    have covered : run.covers c.toNat = true :=
      List.find?_some (p := fun run : CaseRun => run.covers c.toNat) found
    obtain ⟨above, below, _⟩ := (CaseRun.covers_iff run c.toNat).mp covered
    have outside := apart.2 run (List.mem_of_find?_eq_some found)
    by_cases valid : (run.image c.toNat).isValidChar
    · have image : run.image c.toNat = d.toNat := by
        have number : (Char.ofNat (run.image c.toNat)).toNat = d.toNat :=
          congrArg Char.toNat shifted
        rw [Char.ofNat, dif_pos valid] at number
        exact number
      unfold CaseRun.image at outside image
      omega
    · have image : Char.ofNat (run.image c.toNat) = '\x00' := by
        rw [Char.ofNat, dif_neg valid]
        rfl
      exact absurd (shifted.symm.trans image) apart.1
  · exact shifted

/-! ## Characters -/

/-- In the ASCII range the table says the same. -/
theorem toUpper_eq_shiftBy {c : Char} (ascii : c.toNat < 0x80) :
    c.toUpper = shiftBy upperRuns c :=
  of_ascii (motive := fun c => c.toUpper = shiftBy upperRuns c) (by decide +kernel) ascii

/-- The upper case of a letter is one of the sequences or comes from the runs. -/
theorem upperChar_cases (c : Char) :
    (∃ entry ∈ upperSequences, upperChar c = entry.2.map Char.ofNat) ∨
      upperChar c = [shiftBy upperRuns c] := by
  unfold upperChar
  split
  · rename_i ascii
    exact Or.inr (by rw [toUpper_eq_shiftBy ascii])
  · split
    · rename_i first points found
      exact Or.inl ⟨_, List.mem_of_find?_eq_some found, rfl⟩
    · exact Or.inr rfl

/-- No letter has the character in its other case. -/
def IsCaseless (c : Char) : Prop :=
  IsApart lowerRuns c ∧ IsApart upperRuns c ∧ c ∉ ['i', '\u0307', 'σ', 'ς'] ∧
    ∀ entry ∈ upperSequences, c ∉ entry.2.map Char.ofNat

instance : DecidablePred IsCaseless := fun c =>
  inferInstanceAs (Decidable (IsApart lowerRuns c ∧ IsApart upperRuns c ∧
    c ∉ ['i', '\u0307', 'σ', 'ς'] ∧ ∀ entry ∈ upperSequences, c ∉ entry.2.map Char.ofNat))

theorem isCaseless_lineFeed : IsCaseless '\n' := by
  decide +kernel

theorem isCaseless_underscore : IsCaseless '_' := by
  decide +kernel

section Caseless

variable {d : Char} (caseless : IsCaseless d)

include caseless

theorem eq_of_mem_lowerChar {c : Char} (mapped : d ∈ lowerChar c) : c = d := by
  by_cases dotted : c = 'İ'
  · subst dotted
    have images : lowerChar 'İ' = ['i', '\u0307'] := rfl
    rw [images] at mapped
    exact absurd (List.mem_append_left ['σ', 'ς'] mapped) caseless.2.2.1
  · rw [lowerChar_eq dotted, List.mem_singleton] at mapped
    exact eq_of_shiftBy caseless.1 mapped.symm

theorem eq_of_mem_upperChar {c : Char} (mapped : d ∈ upperChar c) : c = d := by
  rcases upperChar_cases c with ⟨entry, listed, images⟩ | image
  · rw [images] at mapped
    exact absurd mapped (caseless.2.2.2 entry listed)
  · rw [image, List.mem_singleton] at mapped
    exact eq_of_shiftBy caseless.2.1 mapped.symm

/-! ## Texts -/

theorem mem_of_mem_toLower_go (before : List Char) {text : List Char}
    (mapped : d ∈ toLower.go before text) : d ∈ text := by
  induction text generalizing before with
  | nil => exact mapped
  | cons c text ih =>
      rw [toLower.go, List.mem_append] at mapped
      rcases mapped with head | tail
      · split at head
        · -- The two small sigmas are images, and the character is none.
          have form : d ∈ ['i', '\u0307', 'σ', 'ς'] := by
            split at head
            · rw [List.mem_singleton.mp head]
              decide
            · rw [List.mem_singleton.mp head]
              decide
          exact absurd form caseless.2.2.1
        · rw [eq_of_mem_lowerChar caseless head]
          exact List.mem_cons_self
      · exact List.mem_cons_of_mem c (ih (c :: before) tail)

/-- A caseless character of a text in lower case stands in the text. -/
theorem mem_of_mem_toLower {text : List Char} (mapped : d ∈ toLower text) : d ∈ text :=
  mem_of_mem_toLower_go caseless [] mapped

/-- A caseless character of a text in upper case stands in the text. -/
theorem mem_of_mem_toUpper {text : List Char} (mapped : d ∈ toUpper text) : d ∈ text := by
  obtain ⟨c, listed, image⟩ := List.mem_flatMap.mp mapped
  exact eq_of_mem_upperChar caseless image ▸ listed

end Caseless

theorem length_lowerChar_pos (c : Char) : 0 < (lowerChar c).length := by
  by_cases dotted : c = 'İ'
  · subst dotted
    decide
  · rw [lowerChar_eq dotted]
    exact Nat.one_pos

theorem length_upperChar_pos (c : Char) : 0 < (upperChar c).length := by
  have sequences : ∀ entry ∈ upperSequences, 0 < entry.2.length := by decide +kernel
  rcases upperChar_cases c with ⟨entry, listed, images⟩ | image
  · rw [images, List.length_map]
    exact sequences entry listed
  · rw [image]
    exact Nat.one_pos

theorem length_le_toLower_go (before text : List Char) :
    text.length ≤ (toLower.go before text).length := by
  induction text generalizing before with
  | nil => exact Nat.le_refl 0
  | cons c text ih =>
      have tail := ih (c :: before)
      have head : 0 < (if c == 'Σ' then
          if nextIsCased before && !nextIsCased text then ['ς'] else ['σ']
        else lowerChar c).length := by
        split
        · split
          · exact Nat.one_pos
          · exact Nat.one_pos
        · exact length_lowerChar_pos c
      rw [toLower.go, List.length_append, List.length_cons]
      omega

/-- A text in lower case is not shorter. -/
theorem length_le_toLower (text : List Char) : text.length ≤ (toLower text).length :=
  length_le_toLower_go [] text

/-- A text in upper case is not shorter. -/
theorem length_le_toUpper (text : List Char) : text.length ≤ (toUpper text).length := by
  induction text with
  | nil => exact Nat.le_refl 0
  | cons c text ih =>
      have head := length_upperChar_pos c
      have split : toUpper (c :: text) = upperChar c ++ toUpper text := rfl
      rw [split, List.length_append, List.length_cons]
      omega

/-- What a letter case does to a text: nothing comes of nothing, no text gets shorter, and
no caseless character appears. -/
structure IsCasing (toCase : List Char → List Char) : Prop where
  nil : toCase [] = []
  length_le : ∀ text, text.length ≤ (toCase text).length
  mem_of_mem : ∀ {c : Char}, IsCaseless c → ∀ {text}, c ∈ toCase text → c ∈ text

theorem isCasing_toLower : IsCasing toLower :=
  ⟨rfl, length_le_toLower, fun caseless _ => mem_of_mem_toLower caseless⟩

theorem isCasing_toUpper : IsCasing toUpper :=
  ⟨rfl, length_le_toUpper, fun caseless _ => mem_of_mem_toUpper caseless⟩

namespace IsCasing

variable {toCase : List Char → List Char} (casing : IsCasing toCase)

include casing

/-- Only the empty text is empty in another case. -/
theorem eq_nil {text : List Char} (empty : toCase text = []) : text = [] := by
  have shorter := casing.length_le text
  rw [empty] at shorter
  exact List.length_eq_zero_iff.mp (Nat.le_zero.mp shorter)

/-- Only a caseless character itself turns into it. -/
theorem eq_singleton {c : Char} (caseless : IsCaseless c) {text : List Char}
    (single : toCase text = [c]) : text = [c] := by
  have listed : c ∈ text := casing.mem_of_mem caseless (single ▸ List.mem_singleton_self c)
  have shorter := casing.length_le text
  rw [single] at shorter
  cases text with
  | nil => cases listed
  | cons d rest =>
      have rest_nil : rest = [] := List.length_eq_zero_iff.mp (by simpa using shorter)
      rw [rest_nil, List.mem_singleton] at listed
      rw [rest_nil, listed]

end IsCasing

/-! ## ASCII letters -/

/-- A text in upper case has no small ASCII letters. -/
theorem isLower_of_mem_toUpper {text : List Char} {d : Char} (mapped : d ∈ toUpper text) :
    d.isLower = false := by
  refine Bool.eq_false_iff.mpr fun small => ?_
  have apart : IsApart upperRuns d ∧ shiftBy upperRuns d ≠ d ∧
      ∀ entry ∈ upperSequences, d ∉ entry.2.map Char.ofNat :=
    of_ascii (motive := fun d => d.isLower = true → IsApart upperRuns d ∧
      shiftBy upperRuns d ≠ d ∧ ∀ entry ∈ upperSequences, d ∉ entry.2.map Char.ofNat)
      (by decide +kernel) (ascii_of_isLower small) small
  obtain ⟨c, _, image⟩ := List.mem_flatMap.mp mapped
  rcases upperChar_cases c with ⟨entry, listed, images⟩ | shifted
  · rw [images] at image
    exact apart.2.2 entry listed image
  · rw [shifted, List.mem_singleton] at image
    have same : c = d := eq_of_shiftBy apart.1 image.symm
    rw [same] at image
    exact apart.2.1 image.symm

theorem upperChar_lowerChar {c : Char} (ascii : c.toNat < 0x80) :
    (lowerChar c).flatMap upperChar = upperChar c :=
  of_ascii (motive := fun c => (lowerChar c).flatMap upperChar = upperChar c)
    (by decide +kernel) ascii

theorem toUpper_toLower_go (before : List Char) {text : List Char}
    (ascii : ∀ c ∈ text, c.toNat < 0x80) : toUpper (toLower.go before text) = toUpper text := by
  induction text generalizing before with
  | nil => rfl
  | cons c text ih =>
      obtain ⟨head, tail⟩ := List.forall_mem_cons.mp ascii
      have sigma : ¬(c == 'Σ') = true := by
        rw [beq_iff_eq]
        rintro rfl
        exact absurd head (by decide)
      rw [toLower.go, if_neg sigma, toUpper, List.flatMap_append, upperChar_lowerChar head]
      exact congrArg (upperChar c ++ ·) (ih (c :: before) tail)

/-- The upper case of an ASCII text does not change when lower case is taken first. -/
theorem toUpper_toLower {text : List Char} (ascii : ∀ c ∈ text, c.toNat < 0x80) :
    toUpper (toLower text) = toUpper text :=
  toUpper_toLower_go [] ascii

end NamedConstants.Text
