import NamedConstants.Text.Piece

/-!
# Pieces of a text

What a cut takes apart is the whole text (`eq_of_cut?_eq_some`), and what is
joined has no characters of its own (`mem_join`). No piece holds a separator
(`not_isSeparator_of_mem_pieces`), and the pieces of a text with a separator in it are those
in front of it and those behind it (`pieces_append_separator`). So texts that are joined by
a separator are cut at it again (`pieces_join_eq_flatMap`, `pieces_join`), the pieces of a
text join to it (`join_pieces`), and an ending without separators ends the last piece
(`getLast?_pieces_append`).

Replacing goes from left to right: it replaces what stands at the start
(`replaceAll_append_self`), keeps a front in which nothing starts that it replaces
(`replaceAll_append_of_apart`), and works on both sides of a foreign character for itself
(`replaceAll_append_cons`). Where something is deleted, the text is shorter
(`length_replaceAll_nil_lt`).
-/

set_option autoImplicit false

namespace NamedConstants.Text

variable {α : Type}

section Cut

variable [BEq α] [LawfulBEq α] {separator : α} {text before after : List α}

/-- The separator stands between the two parts of a cut. -/
theorem eq_of_cut?_eq_some (cut : cut? separator text = some (before, after)) :
    text = before ++ separator :: after := by
  induction text generalizing before with
  | nil => cases cut
  | cons c text ih =>
      rw [cut?] at cut
      split at cut
      · rename_i here
        cases cut
        rw [beq_iff_eq.mp here, List.nil_append]
      · obtain ⟨⟨front, rest⟩, found, same⟩ := Option.map_eq_some_iff.mp cut
        cases same
        rw [ih found, List.cons_append]

/-- The text before a cut does not separate. -/
theorem not_mem_of_cut?_eq_some (cut : cut? separator text = some (before, after)) :
    separator ∉ before := by
  induction text generalizing before with
  | nil => cases cut
  | cons c text ih =>
      rw [cut?] at cut
      split at cut
      · cases cut
        exact List.not_mem_nil
      · rename_i other
        obtain ⟨⟨front, rest⟩, found, same⟩ := Option.map_eq_some_iff.mp cut
        cases same
        rw [List.mem_cons]
        rintro (rfl | inside)
        · exact other (beq_self_eq_true _)
        · exact ih found inside

/-- A text without the separator is not cut. -/
theorem cut?_eq_none (whole : separator ∉ text) : cut? separator text = none := by
  cases cut : cut? separator text with
  | none => rfl
  | some parts =>
      rw [eq_of_cut?_eq_some cut] at whole
      exact absurd (List.mem_append_right _ List.mem_cons_self) whole

/-- A text is cut at its first separator. -/
theorem cut?_append {front : List α} (whole : separator ∉ front) (rest : List α) :
    cut? separator (front ++ separator :: rest) = some (front, rest) := by
  induction front with
  | nil => rw [List.nil_append, cut?, if_pos (beq_self_eq_true separator)]
  | cons c front ih =>
      rw [List.mem_cons, not_or] at whole
      have other : ¬(c == separator) = true := fun same => whole.1 (beq_iff_eq.mp same).symm
      rw [List.cons_append, cut?, if_neg other, ih whole.2]
      rfl

end Cut

/-- What follows a beginning is found behind it. -/
theorem after?_append (front rest : List Char) : after? front (front ++ rest) = some rest := by
  induction front with
  | nil => rfl
  | cons c front ih => rw [List.cons_append, after?, if_pos (beq_self_eq_true c), ih]

/-- A joined text has no characters of its own. -/
theorem mem_join {separator : List α} {texts : List (List α)} {c : α}
    (listed : c ∈ join separator texts) : c ∈ separator ∨ ∃ text ∈ texts, c ∈ text := by
  induction texts with
  | nil => cases listed
  | cons text others ih =>
      cases others with
      | nil => exact Or.inr ⟨text, List.mem_cons_self, listed⟩
      | cons next others =>
          rw [join, List.mem_append, List.mem_append] at listed
          rcases listed with (own | between) | later
          · exact Or.inr ⟨text, List.mem_cons_self, own⟩
          · exact Or.inl between
          · rcases ih later with between | ⟨other, behind, inside⟩
            · exact Or.inl between
            · exact Or.inr ⟨other, List.mem_cons_of_mem text behind, inside⟩

/-- The separator stands between neighbours. -/
theorem join_eq_intercalate (separator : List α) (texts : List (List α)) :
    join separator texts = separator.intercalate texts := by
  induction texts with
  | nil => rfl
  | cons text others ih =>
      cases others with
      | nil => rw [join, List.intercalate_singleton]
      | cons next others =>
          rw [join, ih, List.intercalate_cons_cons, List.append_assoc]

section Pieces

variable {isSeparator : α → Bool}

theorem pieces_ne_nil (text : List α) : pieces isSeparator text ≠ [] := by
  cases text with
  | nil => exact List.cons_ne_nil _ _
  | cons c text =>
      rw [pieces]
      split
      · exact List.cons_ne_nil _ _
      · split
        · exact List.cons_ne_nil _ _
        · exact List.cons_ne_nil _ _

/-- A piece does not separate. -/
theorem not_isSeparator_of_mem_pieces {text piece : List α}
    (listed : piece ∈ pieces isSeparator text) : ∀ c ∈ piece, isSeparator c = false := by
  induction text generalizing piece with
  | nil =>
      rw [List.mem_singleton.mp listed]
      exact fun _ inside => absurd inside List.not_mem_nil
  | cons c text ih =>
      rw [pieces] at listed
      split at listed
      · rcases List.mem_cons.mp listed with rfl | later
        · exact fun _ inside => absurd inside List.not_mem_nil
        · exact ih later
      · rename_i plain
        cases split : pieces isSeparator text with
        | nil => exact absurd split (pieces_ne_nil text)
        | cons next others =>
            rw [split] at listed ih
            rcases List.mem_cons.mp listed with rfl | later
            · exact List.forall_mem_cons.mpr
                ⟨Bool.eq_false_iff.mpr plain, ih List.mem_cons_self⟩
            · exact ih (List.mem_cons_of_mem _ later)

/-- A text without separators is one piece. -/
theorem pieces_of_forall {text : List α} (whole : ∀ c ∈ text, isSeparator c = false) :
    pieces isSeparator text = [text] := by
  induction text with
  | nil => rfl
  | cons c text ih =>
      obtain ⟨head, tail⟩ := List.forall_mem_cons.mp whole
      simp [pieces, head, ih tail]

/-- A text is cut at every separator. -/
theorem pieces_append_separator {separator : α} (separates : isSeparator separator = true)
    (front rest : List α) :
    pieces isSeparator (front ++ separator :: rest) =
      pieces isSeparator front ++ pieces isSeparator rest := by
  induction front with
  | nil => simp only [List.nil_append, pieces, separates, if_true, List.singleton_append]
  | cons c front ih =>
      rw [List.cons_append, pieces, pieces, ih]
      split
      · rfl
      · cases split : pieces isSeparator front with
        | nil => exact absurd split (pieces_ne_nil front)
        | cons piece others => rfl

/-- A separator ends the piece before it. -/
theorem pieces_append_cons {front : List α} (whole : ∀ c ∈ front, isSeparator c = false)
    {separator : α} (separates : isSeparator separator = true) (rest : List α) :
    pieces isSeparator (front ++ separator :: rest) = front :: pieces isSeparator rest := by
  rw [pieces_append_separator separates, pieces_of_forall whole, List.singleton_append]

/-- Between separators stands the text that has none, and else nothing. -/
theorem mem_pieces_between {before word after piece : List α}
    (separates : ∀ c ∈ before, isSeparator c = true) (whole : ∀ c ∈ word, isSeparator c = false)
    (separates' : ∀ c ∈ after, isSeparator c = true) (some : piece ≠ []) :
    piece ∈ pieces isSeparator (before ++ (word ++ after)) ↔ piece = word := by
  induction before with
  | nil =>
      rw [List.nil_append]
      induction after generalizing word with
      | nil => rw [List.append_nil, pieces_of_forall whole, List.mem_singleton]
      | cons c after ih =>
          obtain ⟨head, tail⟩ := List.forall_mem_cons.mp separates'
          have nothing : piece ∉ pieces isSeparator after := by
            have none := @ih [] (fun _ inside => absurd inside List.not_mem_nil) tail
            rw [List.nil_append] at none
            exact fun listed => some (none.mp listed)
          rw [pieces_append_cons whole head, List.mem_cons]
          exact or_iff_left nothing
  | cons c before ih =>
      obtain ⟨head, tail⟩ := List.forall_mem_cons.mp separates
      rw [List.cons_append, pieces, if_pos head, List.mem_cons, ih tail]
      exact or_iff_right some

/-- **The pieces of joined texts are the pieces of one after the other.** -/
theorem pieces_join_eq_flatMap {texts : List (List α)} {separator : α}
    (separates : isSeparator separator = true) (some : texts ≠ []) :
    pieces isSeparator (join [separator] texts) = texts.flatMap (pieces isSeparator) := by
  induction texts with
  | nil => exact absurd rfl some
  | cons text others ih =>
      cases others with
      | nil => rw [join, List.flatMap_singleton]
      | cons next others =>
          rw [join, List.append_assoc, List.singleton_append, pieces_append_separator separates,
            ih (List.cons_ne_nil next others)]
          rfl

/-- A piece of joined texts is a piece of one of them. -/
theorem mem_pieces_join {texts : List (List α)} {separator : α}
    (separates : isSeparator separator = true) {piece : List α} (some : piece ≠ []) :
    piece ∈ pieces isSeparator (join [separator] texts) ↔
      ∃ text ∈ texts, piece ∈ pieces isSeparator text := by
  cases texts with
  | nil => simp [join, pieces, some]
  | cons text others =>
      rw [pieces_join_eq_flatMap separates (List.cons_ne_nil text others), List.mem_flatMap]

/-- Texts that are joined by a separator, which none of them holds, are its pieces. -/
theorem pieces_join {texts : List (List α)}
    (whole : ∀ text ∈ texts, ∀ c ∈ text, isSeparator c = false) {separator : α}
    (separates : isSeparator separator = true) (some : texts ≠ []) :
    pieces isSeparator (join [separator] texts) = texts := by
  rw [pieces_join_eq_flatMap separates some, List.flatMap_def,
    List.map_congr_left fun text listed => pieces_of_forall (whole text listed),
    ← List.flatMap_def, List.flatMap_singleton']

/-- The pieces between separators give the text when they are joined. -/
theorem join_pieces [BEq α] [LawfulBEq α] (separator : α) (text : List α) :
    join [separator] (pieces (· == separator) text) = text := by
  induction text with
  | nil => rfl
  | cons c text ih =>
      rw [pieces]
      cases split : pieces (· == separator) text with
      | nil => exact absurd split (pieces_ne_nil text)
      | cons piece others =>
          rw [split] at ih
          by_cases here : (c == separator) = true
          · rw [if_pos here, join, ih, beq_iff_eq.mp here]
            rfl
          · rw [if_neg here]
            cases others with
            | nil =>
                rw [join] at ih
                rw [join, ih]
            | cons next others =>
                rw [join] at ih
                rw [join, ← ih]
                rfl

/-- There is one piece more than there are separators. -/
theorem length_pieces (text : List α) :
    (pieces isSeparator text).length = text.countP isSeparator + 1 := by
  induction text with
  | nil => rfl
  | cons c text ih =>
      rw [pieces, List.countP_cons]
      split
      · rw [List.length_cons, ih]
      · cases split : pieces isSeparator text with
        | nil => exact absurd split (pieces_ne_nil text)
        | cons piece others => simpa [split] using ih

/-- An ending without separators ends the last piece. -/
theorem getLast?_pieces_append (front : List α) {ending : List α}
    (whole : ∀ c ∈ ending, isSeparator c = false) :
    ∃ last, (pieces isSeparator (front ++ ending)).getLast? = some (last ++ ending) := by
  induction front with
  | nil => exact ⟨[], by rw [List.nil_append, pieces_of_forall whole]; rfl⟩
  | cons c front ih =>
      obtain ⟨last, ends⟩ := ih
      rw [List.cons_append, pieces]
      split
      · exact ⟨last, by rw [List.getLast?_cons, ends, Option.getD_some]⟩
      · cases split : pieces isSeparator (front ++ ending) with
        | nil => exact absurd split (pieces_ne_nil _)
        | cons piece others =>
            rw [split] at ends
            cases others with
            | nil =>
                -- The only piece is the last one, and takes the character in front.
                cases ends
                exact ⟨c :: last, rfl⟩
            | cons next others => exact ⟨last, by simpa using ends⟩

end Pieces

section Replacement

variable {needle : List Char} (replacement : List Char)

theorem replaceAll.go_eq_drop (skipped : Nat) (text : List Char) :
    replaceAll.go needle replacement skipped text =
      replaceAll needle replacement (text.drop skipped) := by
  induction text generalizing skipped with
  | nil => cases skipped <;> rfl
  | cons c text ih =>
      cases skipped with
      | zero => rfl
      | succ skipped => exact ih skipped

/-- An occurrence at the start is replaced. -/
theorem replaceAll_append_self (some : needle ≠ []) (rest : List Char) :
    replaceAll needle replacement (needle ++ rest) =
      replacement ++ replaceAll needle replacement rest := by
  obtain ⟨c, tail, rfl⟩ := List.exists_cons_of_ne_nil some
  have starts : (c :: tail).isPrefixOf (c :: (tail ++ rest)) = true :=
    List.isPrefixOf_iff_prefix.mpr (List.prefix_append (c :: tail) rest)
  rw [List.cons_append, replaceAll, replaceAll.go, if_pos starts, replaceAll.go_eq_drop,
    List.length_cons, Nat.add_sub_cancel, List.drop_left]

/-- A front in which no occurrence starts stays. -/
theorem replaceAll_append_of_apart {front rest : List Char}
    (apart : ∀ ending, ending ≠ [] → ending <:+ front → ¬needle <+: ending ++ rest) :
    replaceAll needle replacement (front ++ rest) =
      front ++ replaceAll needle replacement rest := by
  induction front with
  | nil => rfl
  | cons c front ih =>
      have here : ¬needle.isPrefixOf (c :: (front ++ rest)) = true := fun starts =>
        apart (c :: front) (List.cons_ne_nil c front) (List.suffix_refl _)
          (List.isPrefixOf_iff_prefix.mp starts)
      have later := ih fun ending some ends =>
        apart ending some (ends.trans (List.suffix_cons c front))
      rw [List.cons_append, replaceAll, replaceAll.go, if_neg here, ← replaceAll, later,
        List.cons_append]

/-- A text in which nothing occurs stays. -/
theorem replaceAll_of_absent {text : List Char} (absent : ¬needle <:+: text) :
    replaceAll needle replacement text = text := by
  have whole := @replaceAll_append_of_apart needle replacement text []
    fun ending _ ends starts => by
      rw [List.append_nil] at starts
      exact absent (starts.isInfix.trans ends.isInfix)
  rw [List.append_nil] at whole
  rw [whole]
  exact List.append_nil text

/-- A character that is not replaced stays where no occurrence starts. -/
theorem replaceAll_cons_of_not_prefix {c : Char} {rest : List Char}
    (apart : ¬needle <+: c :: rest) :
    replaceAll needle replacement (c :: rest) = c :: replaceAll needle replacement rest := by
  have here : ¬needle.isPrefixOf (c :: rest) = true := mt List.isPrefixOf_iff_prefix.mp apart
  rw [replaceAll, replaceAll.go, if_neg here, ← replaceAll]

/-- What starts a text without one of its characters ends in front of this character. -/
theorem prefix_of_prefix_append {c : Char} (foreign : c ∉ needle) {front rest : List Char}
    (starts : needle <+: front ++ c :: rest) : needle <+: front := by
  have other : front ++ [c] <+: front ++ c :: rest :=
    (List.prefix_append_right_inj front).mpr (List.prefix_append [c] rest)
  have own : c ∈ front ++ [c] := List.mem_append_right front List.mem_cons_self
  rcases List.prefix_or_prefix_of_prefix starts other with shorter | longer
  · rcases List.prefix_concat_iff.mp shorter with rfl | within
    · exact absurd own foreign
    · exact within
  · exact absurd (longer.mem own) foreign

/-- **Nothing is replaced across a character that the replaced text has not.** -/
theorem replaceAll_append_cons (some : needle ≠ []) {c : Char} (foreign : c ∉ needle)
    (front rest : List Char) :
    replaceAll needle replacement (front ++ c :: rest) =
      replaceAll needle replacement front ++ c :: replaceAll needle replacement rest := by
  induction length : front.length using Nat.strongRecOn generalizing front with
  | ind length ih =>
      subst length
      cases front with
      | nil =>
          refine replaceAll_cons_of_not_prefix replacement fun starts => ?_
          obtain ⟨first, tail, rfl⟩ := List.exists_cons_of_ne_nil some
          exact foreign ((List.cons_prefix_cons.mp starts).1 ▸ List.mem_cons_self)
      | cons d front =>
          by_cases starts : needle <+: d :: front
          · -- an occurrence is replaced in front, and what is left of the front is shorter
            obtain ⟨tail, split⟩ := starts
            have shorter : tail.length < (d :: front).length := by
              have positive := List.length_pos_iff.mpr some
              rw [← split, List.length_append]
              omega
            rw [← split, List.append_assoc, replaceAll_append_self replacement some,
              replaceAll_append_self replacement some, ih _ shorter tail rfl, List.append_assoc]
          · have starts' : ¬needle <+: d :: (front ++ c :: rest) := fun longer =>
              starts (prefix_of_prefix_append foreign longer)
            rw [List.cons_append, replaceAll_cons_of_not_prefix replacement starts',
              replaceAll_cons_of_not_prefix replacement starts, ih _ (Nat.lt_succ_self _) front rfl,
              List.cons_append]

/-- What stands between foreign characters is replaced for itself. -/
theorem replaceAll_between (some : needle ≠ []) {before after : List Char}
    (foreign : ∀ c ∈ before, c ∉ needle) (foreign' : ∀ c ∈ after, c ∉ needle)
    (word : List Char) :
    replaceAll needle replacement (before ++ (word ++ after)) =
      before ++ (replaceAll needle replacement word ++ after) := by
  induction before with
  | nil =>
      induction after generalizing word with
      | nil => simp only [List.nil_append, List.append_nil]
      | cons c after ih =>
          obtain ⟨head, tail⟩ := List.forall_mem_cons.mp foreign'
          have behind : replaceAll needle replacement after = after := ih tail []
          rw [List.nil_append, replaceAll_append_cons replacement some head, behind,
            List.nil_append]
  | cons c before ih =>
      obtain ⟨head, tail⟩ := List.forall_mem_cons.mp foreign
      have first := replaceAll_append_cons replacement some head [] (before ++ (word ++ after))
      rw [List.nil_append] at first
      rw [List.cons_append, first, ih tail]
      rfl

/-- Joined texts are replaced one by one. -/
theorem replaceAll_join (some : needle ≠ []) {separator : Char} (foreign : separator ∉ needle)
    (texts : List (List Char)) :
    replaceAll needle replacement (join [separator] texts) =
      join [separator] (texts.map (replaceAll needle replacement)) := by
  induction texts with
  | nil => rfl
  | cons text others ih =>
      cases others with
      | nil => rfl
      | cons next others =>
          simp only [List.map_cons, join, List.append_assoc, List.singleton_append] at ih ⊢
          rw [replaceAll_append_cons replacement some foreign, ih]

end Replacement

section Deletion

variable {needle text : List Char}

theorem sublist_replaceAll_go (skipped : Nat) (text : List Char) :
    (replaceAll.go needle [] skipped text).Sublist text := by
  induction text generalizing skipped with
  | nil => cases skipped <;> exact List.Sublist.refl []
  | cons c text ih =>
      cases skipped with
      | succ skipped => exact (ih skipped).cons c
      | zero =>
          rw [replaceAll.go]
          split
          · exact (ih _).cons c
          · exact (ih 0).cons_cons c

/-- What is left of a text from which another one is deleted stands in the text. -/
theorem sublist_replaceAll_nil (needle text : List Char) :
    (replaceAll needle [] text).Sublist text :=
  sublist_replaceAll_go 0 text

/-- A text is shorter when something that occurs in it is deleted. -/
theorem length_replaceAll_nil_lt (occurs : needle <:+: text) (some : needle ≠ []) :
    (replaceAll needle [] text).length < text.length := by
  induction text with
  | nil => exact absurd (List.infix_nil.mp occurs) some
  | cons c text ih =>
      rcases List.infix_cons_iff.mp occurs with starts | behind
      · have left := (@sublist_replaceAll_go needle (needle.length - 1) text).length_le
        rw [replaceAll, replaceAll.go, if_pos (List.isPrefixOf_iff_prefix.mpr starts),
          List.nil_append, List.length_cons]
        exact Nat.lt_succ_of_le left
      · have left := ih behind
        rw [replaceAll, replaceAll.go]
        split
        · have tail := (@sublist_replaceAll_go needle (needle.length - 1) text).length_le
          exact Nat.lt_succ_of_le tail
        · exact Nat.succ_lt_succ left

end Deletion

end NamedConstants.Text
