import NamedConstants.Proofs.Text.Caseless
import NamedConstants.Proofs.Text.Piece
import NamedConstants.Text.WordCase

/-!
# The words of an identifier

The words of an identifier are made of its characters (`mem_of_mem_identifierWords`). A
single word is the whole identifier (`flatten_of_identifierWords`), and two empty words
have a separator between them and nothing else (`identifierWords_eq_empty_iff`).

No letter has a case with a line feed in it. So the names that are derived
from an identifier stand on one line when the identifier does
(`lineFeed_not_mem_pascalCase`, `lineFeed_not_mem_snakeCase`,
`lineFeed_not_mem_upperSnakeCase`).
-/

set_option autoImplicit false

namespace NamedConstants.Text

/-! ## Words -/

/-- The clusters of a text are the text. -/
theorem flatten_clusters (text : List Char) : (clusters text).flatten = text := by
  induction text with
  | nil => rfl
  | cons c text ih =>
      rw [clusters]
      split
      · rename_i d more others split
        rw [split] at ih
        split
        · rw [List.flatten_cons, ih, List.singleton_append]
        · simpa using ih
      · rw [List.flatten_cons, ih, List.singleton_append]

/-- No cluster is empty. -/
theorem ne_nil_of_mem_clusters {text : List Char} {cluster : Cluster}
    (listed : cluster ∈ clusters text) : cluster ≠ [] := by
  induction text with
  | nil => cases listed
  | cons c text ih =>
      rw [clusters] at listed
      split at listed
      · rename_i d more others split
        rw [split] at ih
        split at listed
        · rcases List.mem_cons.mp listed with rfl | later
          · exact List.cons_ne_nil c []
          · exact ih later
        · rcases List.mem_cons.mp listed with rfl | later
          · exact List.cons_ne_nil c (d :: more)
          · exact ih (List.mem_cons_of_mem _ later)
      · rcases List.mem_cons.mp listed with rfl | later
        · exact List.cons_ne_nil c []
        · exact ih later

theorem wordsOfClusters_ne_nil (parts : List Cluster) : wordsOfClusters parts ≠ [] := by
  cases parts with
  | nil => exact List.cons_ne_nil [] []
  | cons first parts =>
      rw [wordsOfClusters]
      split
      · exact List.cons_ne_nil _ _
      · split
        · exact List.cons_ne_nil _ _
        · split
          · exact List.cons_ne_nil _ _
          · exact List.cons_ne_nil _ _

/-- Clusters that are one word are the clusters of this word. -/
theorem eq_of_wordsOfClusters {parts word : List Cluster}
    (single : wordsOfClusters parts = [word]) : parts = word := by
  induction parts generalizing word with
  | nil => exact (List.cons.inj single).1
  | cons first parts ih =>
      rw [wordsOfClusters] at single
      split at single
      · exact absurd (List.cons.inj single).2 (wordsOfClusters_ne_nil parts)
      · split at single
        · exact absurd (List.cons.inj single).2 (wordsOfClusters_ne_nil parts)
        · split at single
          · rename_i own others split
            obtain ⟨rfl, rfl⟩ := List.cons.inj single
            rw [ih split]
          · rename_i none
            exact absurd none (wordsOfClusters_ne_nil parts)

/-- A single word is the identifier. -/
theorem flatten_of_identifierWords {text : List Char} {word : List Cluster}
    (single : identifierWords text = [word]) : word.flatten = text := by
  rw [← eq_of_wordsOfClusters single, flatten_clusters]

/-- Two empty words have a separator between them and nothing else. -/
theorem wordsOfClusters_eq_empty_iff (parts : List Cluster) :
    wordsOfClusters parts = [[], []] ↔ ∃ cluster, cluster.separates = true ∧ parts = [cluster] := by
  constructor
  · intro empty
    cases parts with
    | nil => exact absurd empty (by decide)
    | cons first parts =>
        rw [wordsOfClusters] at empty
        split at empty
        · rename_i separates
          have rest : parts = [] := eq_of_wordsOfClusters (List.cons.inj empty).2
          exact ⟨first, separates, by rw [rest]⟩
        · split at empty
          · exact absurd (List.cons.inj empty).1 (List.cons_ne_nil first [])
          · split at empty
            · exact absurd (List.cons.inj empty).1 (List.cons_ne_nil first _)
            · exact absurd (List.cons.inj empty).1 (List.cons_ne_nil first [])
  · rintro ⟨cluster, separates, rfl⟩
    rw [wordsOfClusters, if_pos separates]
    rfl

/-- The identifiers of two empty words are the separators. -/
theorem identifierWords_eq_empty_iff (text : List Char) :
    identifierWords text = [[], []] ↔ text ∈ [['_'], ['-'], [' ']] := by
  constructor
  · intro empty
    obtain ⟨cluster, separates, own⟩ := (wordsOfClusters_eq_empty_iff _).mp empty
    have whole : text = cluster := by
      rw [← flatten_clusters text, own, List.flatten_singleton]
    rw [whole]
    simpa [Cluster.separates, or_assoc] using separates
  · intro listed
    simp only [List.mem_cons, List.not_mem_nil, or_false] at listed
    rcases listed with rfl | rfl | rfl
    · rfl
    · rfl
    · rfl

/-- A word is made of clusters of the identifier. -/
theorem mem_of_mem_wordsOfClusters {parts word : List Cluster}
    (listed : word ∈ wordsOfClusters parts) {cluster : Cluster} (inside : cluster ∈ word) :
    cluster ∈ parts := by
  induction parts generalizing word with
  | nil =>
      rw [List.mem_singleton.mp listed] at inside
      cases inside
  | cons first parts ih =>
      rw [wordsOfClusters] at listed
      split at listed
      · rcases List.mem_cons.mp listed with rfl | later
        · cases inside
        · exact List.mem_cons_of_mem first (ih later inside)
      · split at listed
        · rcases List.mem_cons.mp listed with rfl | later
          · exact List.mem_singleton.mp inside ▸ List.mem_cons_self
          · exact List.mem_cons_of_mem first (ih later inside)
        · split at listed
          · rename_i own others split
            rcases List.mem_cons.mp listed with rfl | later
            · rcases List.mem_cons.mp inside with rfl | behind
              · exact List.mem_cons_self
              · exact List.mem_cons_of_mem first (ih (split ▸ List.mem_cons_self) behind)
            · exact List.mem_cons_of_mem first
                (ih (split ▸ List.mem_cons_of_mem own later) inside)
          · rw [List.mem_singleton.mp listed] at inside
            exact List.mem_singleton.mp inside ▸ List.mem_cons_self

theorem mem_of_mem_identifierWords {text : List Char} {word : List Cluster}
    (listed : word ∈ identifierWords text) {c : Char} (inside : c ∈ word.flatten) : c ∈ text := by
  obtain ⟨cluster, part, own⟩ := List.mem_flatten.mp inside
  rw [← flatten_clusters text]
  exact List.mem_flatten.mpr ⟨cluster, mem_of_mem_wordsOfClusters listed part, own⟩

theorem lineFeed_not_mem_capitalized {word : List Cluster} (plain : '\n' ∉ word.flatten) :
    '\n' ∉ capitalized word := by
  cases word with
  | nil => exact List.not_mem_nil
  | cons first rest =>
      rw [List.flatten_cons, List.mem_append, not_or] at plain
      rw [capitalized, List.mem_append, not_or]
      exact ⟨fun mapped => plain.1 (mem_of_mem_toUpper isCaseless_lineFeed mapped),
        fun mapped => plain.2 (mem_of_mem_toLower isCaseless_lineFeed mapped)⟩

section Names

variable {text : List Char} (plain : '\n' ∉ text)

include plain

theorem lineFeed_not_mem_pascalCase : '\n' ∉ pascalCase text := by
  intro mapped
  obtain ⟨word, listed, inside⟩ := List.mem_flatMap.mp mapped
  have whole : '\n' ∉ word.flatten := fun own => plain (mem_of_mem_identifierWords listed own)
  exact lineFeed_not_mem_capitalized whole inside

/-- Words that are joined by underscores, in any case. -/
theorem lineFeed_not_mem_joined {toCase : List Char → List Char} (casing : IsCasing toCase) :
    '\n' ∉ join ['_'] ((identifierWords text).map fun word => toCase word.flatten) := by
  intro mapped
  rcases mem_join mapped with separator | ⟨piece, listed, inside⟩
  · exact absurd separator (by decide)
  · obtain ⟨word, own, rfl⟩ := List.mem_map.mp listed
    exact plain (mem_of_mem_identifierWords own (casing.mem_of_mem isCaseless_lineFeed inside))

theorem lineFeed_not_mem_snakeCase : '\n' ∉ snakeCase text :=
  lineFeed_not_mem_joined plain isCasing_toLower

theorem lineFeed_not_mem_upperSnakeCase : '\n' ∉ upperSnakeCase text :=
  lineFeed_not_mem_joined plain isCasing_toUpper

end Names

end NamedConstants.Text
