import NamedConstants.Proofs.Text.WordCase

/-!
# Words that are joined by underscores

A name in snake case is read back by cutting it at its underscores
(`pieces_joinedWords`). So two identifiers have the same name exactly if they have the
same words in the same case (`joinedWords_inj`): where the words are separated makes no
difference. A name without an underscore is the identifier in another case
(`joinedWords_of_single`), and the name that is an underscore belongs to the separators
alone (`joinedWords_eq_underscore_iff`).

Names in lower and in upper case tell ASCII identifiers apart in the same way
(`toUpper_snakeCase`).
-/

set_option autoImplicit false

namespace NamedConstants.Text

/-- The words of an identifier in some letter case, joined by underscores. -/
def joinedWords (toCase : List Char → List Char) (text : List Char) : List Char :=
  join ['_'] ((identifierWords text).map fun word => toCase word.flatten)

/-- The words of an identifier in some letter case. An underscore with a mark on it does
not end a word of the identifier, but it ends one here. -/
def casedWords (toCase : List Char → List Char) (text : List Char) : List (List Char) :=
  (identifierWords text).flatMap fun word => pieces (· == '_') (toCase word.flatten)

variable {toCase : List Char → List Char}

/-! ## Reading back -/

/-- **The words are the pieces between the underscores of the name.** -/
theorem pieces_joinedWords (toCase : List Char → List Char) (text : List Char) :
    pieces (· == '_') (joinedWords toCase text) = casedWords toCase text := by
  have some : (identifierWords text).map (fun word => toCase word.flatten) ≠ [] := fun none =>
    wordsOfClusters_ne_nil (clusters text) (List.map_eq_nil_iff.mp none)
  rw [joinedWords, @pieces_join_eq_flatMap _ (· == '_') _ '_' rfl some, List.flatMap_map]
  rfl

/-- **Names are the same exactly if the words are.** -/
theorem joinedWords_inj {text other : List Char} :
    joinedWords toCase text = joinedWords toCase other ↔
      casedWords toCase text = casedWords toCase other := by
  rw [← pieces_joinedWords, ← pieces_joinedWords]
  constructor
  · exact congrArg (pieces (· == '_'))
  · intro same
    rw [← join_pieces '_' (joinedWords toCase text), same, join_pieces]

/-! ## Single words -/

/-- The name of a single word is the identifier in another case. -/
theorem joinedWords_of_single {text : List Char} {word : List Cluster}
    (single : identifierWords text = [word]) : joinedWords toCase text = toCase text := by
  rw [joinedWords, single, List.map_singleton, join, flatten_of_identifierWords single]

/-- A name without an underscore has a single word. -/
theorem exists_word_of_underscore_not_mem {text : List Char}
    (whole : '_' ∉ joinedWords toCase text) : ∃ word, identifierWords text = [word] := by
  rw [joinedWords] at whole
  cases words : identifierWords text with
  | nil => exact absurd words (wordsOfClusters_ne_nil (clusters text))
  | cons first others =>
      cases others with
      | nil => exact ⟨first, rfl⟩
      | cons next others =>
          rw [words, List.map_cons, List.map_cons, join] at whole
          exact absurd (List.mem_append_left _ (List.mem_append_right _ List.mem_cons_self)) whole

/-- Nothing but the empty text alone is joined to the empty text. -/
theorem eq_nil_of_join_eq_nil {separator : Char} {text : List Char} {others : List (List Char)}
    (empty : join [separator] (text :: others) = []) : text = [] ∧ others = [] := by
  cases others with
  | nil => exact ⟨empty, rfl⟩
  | cons next others =>
      rw [join, List.append_assoc] at empty
      exact absurd (List.append_eq_nil_iff.mp empty).2 (List.cons_ne_nil separator _)

/-- A word that is empty in another case has no clusters. -/
theorem eq_nil_of_cased_eq_nil (casing : IsCasing toCase) {text : List Char} {word : List Cluster}
    (listed : word ∈ identifierWords text) (empty : toCase word.flatten = []) : word = [] := by
  have none := List.flatten_eq_nil_iff.mp (casing.eq_nil empty)
  refine List.eq_nil_iff_forall_not_mem.mpr fun cluster inside => ?_
  exact ne_nil_of_mem_clusters (mem_of_mem_wordsOfClusters listed inside) (none cluster inside)

/-- **Only a separator has the underscore as its name.** -/
theorem joinedWords_eq_underscore_iff (casing : IsCasing toCase) (text : List Char) :
    joinedWords toCase text = ['_'] ↔ text ∈ [['_'], ['-'], [' ']] := by
  rw [← identifierWords_eq_empty_iff, joinedWords]
  constructor
  · intro underscore
    have nil_of_empty {word : List Cluster} (listed : word ∈ identifierWords text) :
        toCase word.flatten = [] → word = [] :=
      eq_nil_of_cased_eq_nil casing listed
    cases words : identifierWords text with
    | nil => exact absurd words (wordsOfClusters_ne_nil (clusters text))
    | cons first others =>
        rw [words] at underscore nil_of_empty
        cases others with
        | nil =>
            have own : text = ['_'] := by
              rw [← flatten_of_identifierWords words]
              exact casing.eq_singleton isCaseless_underscore underscore
            rw [← words, own]
            rfl
        | cons next others =>
            rw [List.map_cons, List.map_cons, join, List.append_assoc] at underscore
            rcases List.append_eq_singleton_iff.mp underscore with ⟨before, behind⟩ | ⟨_, none⟩
            · obtain ⟨after, rest⟩ := eq_nil_of_join_eq_nil (List.cons.inj behind).2
              rw [nil_of_empty List.mem_cons_self before,
                nil_of_empty (List.mem_cons_of_mem first List.mem_cons_self) after,
                List.map_eq_nil_iff.mp rest]
            · exact absurd none (List.cons_ne_nil '_' _)
  · intro words
    rw [words]
    simp only [List.map_cons, List.map_nil, List.flatten_nil, casing.nil, join, List.nil_append,
      List.append_nil]

/-! ## Upper and lower case -/

theorem toUpper_append (text other : List Char) :
    toUpper (text ++ other) = toUpper text ++ toUpper other :=
  List.flatMap_append

theorem toUpper_join (texts : List (List Char)) :
    toUpper (join ['_'] texts) = join ['_'] (texts.map toUpper) := by
  induction texts with
  | nil => rfl
  | cons text others ih =>
      cases others with
      | nil => rfl
      | cons next others =>
          rw [join, toUpper_append, toUpper_append, ih]
          rfl

/-- **The upper-case name of an ASCII identifier follows from the lower-case one.** -/
theorem toUpper_snakeCase {text : List Char} (ascii : ∀ c ∈ text, c.toNat < 0x80) :
    toUpper (snakeCase text) = upperSnakeCase text := by
  rw [snakeCase, upperSnakeCase, toUpper_join, List.map_map]
  refine congrArg (join ['_']) (List.map_congr_left fun word listed => ?_)
  exact toUpper_toLower fun c inside => ascii c (mem_of_mem_identifierWords listed inside)

end NamedConstants.Text
