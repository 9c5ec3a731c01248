import NamedConstants.Configuration.Substitution
import NamedConstants.Proofs.Text.Piece

/-!
# The references of a text

A text starts with at most one reference, and reading finds it (`atStart?_eq_some_iff`):
the closing brace stands at the end of a spelling and nowhere else in it. So a text splits
in exactly one way into references and the characters between them, if it is read from left
to right and a character stands alone only where no reference starts (`splits_iff`). The
references of this split are the ones that are replaced (`references_partsOf`).

A spelling can still stand inside another one, since a fallback may hold an opening brace.
Then it ends there where the other one ends (`eq_of_prefix_of_suffix`).
-/

set_option autoImplicit false

namespace NamedConstants

/-- The reference is spelled as references are. -/
structure Reference.IsWellFormed (reference : Reference) : Prop where
  named : reference.name ≠ []
  name : ∀ c ∈ reference.name, isNameChar c = true
  fallback : ∀ fallback ∈ reference.fallback, ∀ c ∈ fallback, isFallbackChar c = true

/-- A piece of a text: a character or a reference. -/
inductive Part
  | plain (c : Char)
  | reference (own : Reference)
  deriving DecidableEq, Repr

namespace Part

/-- The spelling of a part. -/
def text : Part → List Char
  | plain c => [c]
  | reference own => own.text

/-- The reference that a part is. -/
def reference? : Part → Option Reference
  | plain _ => none
  | reference own => some own

end Part

namespace Reference

/-- The references among parts. -/
def references (parts : List Part) : List Reference :=
  parts.filterMap Part.reference?

/-- The parts of a text. -/
def partsOf (text : List Char) : List Part :=
  go 0 text
where
  /-- `skipped` characters belong to the reference found last. -/
  go : Nat → List Char → List Part
    | _, [] => []
    | skipped + 1, _ :: rest => go skipped rest
    | 0, c :: rest =>
      match atStart? (c :: rest) with
      | some reference => .reference reference :: go (reference.text.length - 1) rest
      | none => .plain c :: go 0 rest

/-- The text splits into the parts: from left to right, a reference wherever one starts, and
a character where none does. -/
inductive Splits : List Char → List Part → Prop
  | done : Splits [] []
  | reference {reference : Reference} {rest : List Char} {parts : List Part}
      (formed : reference.IsWellFormed) (others : Splits rest parts) :
      Splits (reference.text ++ rest) (.reference reference :: parts)
  | plain {c : Char} {rest : List Char} {parts : List Part}
      (none : ∀ reference : Reference, reference.IsWellFormed → ¬reference.text <+: c :: rest)
      (others : Splits rest parts) : Splits (c :: rest) (.plain c :: parts)

variable {reference other : Reference} {text rest : List Char} {parts : List Part}

/-! ## Spellings -/

/-- A spelling has its only closing brace at the end. -/
theorem exists_of_text (formed : reference.IsWellFormed) :
    ∃ body, reference.text = body ++ ['\x7d'] ∧ '\x7d' ∉ body := by
  have open' : '\x7d' ∉ reference.name := fun listed =>
    absurd (formed.name _ listed) (by decide)
  refine ⟨_, rfl, ?_⟩
  rw [List.mem_append, List.mem_cons, List.mem_cons, not_or, not_or, not_or]
  refine ⟨⟨by decide, by decide, open'⟩, ?_⟩
  cases given : reference.fallback with
  | none => exact List.not_mem_nil
  | some fallback =>
      have plain : '\x7d' ∉ fallback := fun listed =>
        absurd (formed.fallback fallback given _ listed) (by decide)
      simp [plain]

theorem text_ne_nil (reference : Reference) : reference.text ≠ [] :=
  List.cons_ne_nil _ _

/-- What a spelling ends in holds a closing brace at its end and nowhere else. -/
theorem exists_of_suffix_text (formed : reference.IsWellFormed) {ending : List Char}
    (ends : ending <:+ reference.text) (some : ending ≠ []) :
    ∃ front, ending = front ++ ['\x7d'] ∧ '\x7d' ∉ front := by
  obtain ⟨body, spelled, plain⟩ := exists_of_text formed
  obtain ⟨before, split⟩ := ends
  obtain ⟨front, last, concat⟩ := (List.eq_nil_or_concat ending).resolve_left some
  rw [List.concat_eq_append] at concat
  rw [spelled, concat, ← List.append_assoc] at split
  obtain ⟨rfl, brace⟩ := List.append_inj' split rfl
  cases brace
  exact ⟨front, concat, fun listed => plain (List.mem_append_right before listed)⟩

/-- Of two endings of spellings, one starts where the other does only if they are the same. -/
theorem eq_of_prefix_of_suffix (formed : reference.IsWellFormed) (formed' : other.IsWellFormed)
    {ending ending' : List Char} (ends : ending <:+ reference.text) (some : ending ≠ [])
    (ends' : ending' <:+ other.text) (some' : ending' ≠ []) (starts : ending <+: ending' ++ rest) :
    ending = ending' := by
  obtain ⟨front, rfl, plain⟩ := exists_of_suffix_text formed ends some
  obtain ⟨front', rfl, plain'⟩ := exists_of_suffix_text formed' ends' some'
  obtain ⟨after, same⟩ := starts
  rw [List.append_assoc, List.append_assoc, List.singleton_append, List.singleton_append] at same
  -- Both are cut at their first brace.
  have cut := Text.cut?_append plain after
  rw [same, Text.cut?_append plain' rest] at cut
  rw [(Prod.mk.inj (Option.some.inj cut)).1]

/-! ## Reading -/

theorem takeWhile_append_of_stop {accepts : Char → Bool} {front : List Char} {stop : Char}
    (all : ∀ c ∈ front, accepts c = true) (ends : accepts stop = false) (rest : List Char) :
    (front ++ stop :: rest).takeWhile accepts = front ∧
      (front ++ stop :: rest).dropWhile accepts = stop :: rest := by
  rw [List.takeWhile_append_of_pos all, List.dropWhile_append_of_pos all]
  simp [ends]

/-- Behind the name, reading depends on the fallback alone. -/
theorem atStart?_of_name {name : List Char} {stop : Char} (named : name ≠ [])
    (all : ∀ c ∈ name, isNameChar c = true) (ends : isNameChar stop = false) (rest : List Char) :
    atStart? ('$' :: '\x7b' :: (name ++ stop :: rest)) =
      (fallback? (stop :: rest)).map fun fallback => ⟨name, fallback⟩ := by
  obtain ⟨taken, dropped⟩ := takeWhile_append_of_stop all ends rest
  rw [atStart?, taken, dropped]
  cases name with
  | nil => exact absurd rfl named
  | cons c name => rfl

/-- A reference is read from its spelling. -/
theorem atStart?_text_append (formed : reference.IsWellFormed) (rest : List Char) :
    atStart? (reference.text ++ rest) = some reference := by
  obtain ⟨name, fallback⟩ := reference
  cases fallback with
  | none =>
      have spelled : (Reference.mk name none).text ++ rest =
          '$' :: '\x7b' :: (name ++ '\x7d' :: rest) := by
        simp [Reference.text]
      rw [spelled, atStart?_of_name formed.named formed.name (by decide)]
      rfl
  | some fallback =>
      have spelled : (Reference.mk name (some fallback)).text ++ rest =
          '$' :: '\x7b' :: (name ++ ':' :: '-' :: (fallback ++ '\x7d' :: rest)) := by
        simp [Reference.text]
      have ends : isFallbackChar '\x7d' = false := rfl
      obtain ⟨taken, dropped⟩ :=
        takeWhile_append_of_stop (formed.fallback fallback rfl) ends rest
      rw [spelled, atStart?_of_name formed.named formed.name (by decide), fallback?, taken, dropped]
      rfl

/-- What is read behind a name is the end of a spelling. -/
theorem exists_of_fallback? {fallback : Option (List Char)}
    (read : fallback? text = some fallback) (name : List Char) :
    (∀ own ∈ fallback, ∀ c ∈ own, isFallbackChar c = true) ∧
      ∃ rest, '$' :: '\x7b' :: (name ++ text) = (Reference.mk name fallback).text ++ rest := by
  unfold fallback? at read
  split at read
  · rename_i behind
    split at read
    · cases read
    · rename_i some
      cases read
      refine ⟨fun own given c listed => ?_, ?_⟩
      · cases given
        exact List.all_eq_true.mp List.all_takeWhile c listed
      · -- Only a closing brace ends a fallback.
        cases dropped : behind.dropWhile isFallbackChar with
        | nil => simp [dropped] at some
        | cons c rest =>
            have stops := List.head?_dropWhile_not isFallbackChar behind
            rw [dropped] at stops
            have brace : c = '\x7d' := by simpa [isFallbackChar] using stops
            have whole := List.takeWhile_append_dropWhile (p := isFallbackChar) (l := behind)
            rw [dropped, brace] at whole
            refine ⟨rest, ?_⟩
            conv => lhs; rw [← whole]
            simp [Reference.text]
  · rename_i c rest other
    split at read
    · rename_i brace
      cases read
      refine ⟨(fun own given => by cases given), rest, ?_⟩
      rw [beq_iff_eq.mp brace]
      simp [Reference.text]
    · cases read
  · cases read

theorem isWellFormed_of_atStart? (read : atStart? text = some reference) :
    reference.IsWellFormed ∧ reference.text <+: text := by
  unfold atStart? at read
  split at read
  · rename_i rest
    split at read
    · cases read
    · rename_i some
      obtain ⟨fallback, ends, rfl⟩ := Option.map_eq_some_iff.mp read
      obtain ⟨formed, behind, spelled⟩ := exists_of_fallback? ends (rest.takeWhile isNameChar)
      rw [List.takeWhile_append_dropWhile] at spelled
      exact ⟨⟨some, List.all_eq_true.mp List.all_takeWhile, formed⟩, behind, spelled.symm⟩
  · cases read

/-- **Reading finds the reference that a text starts with.** -/
theorem atStart?_eq_some_iff :
    atStart? text = some reference ↔ reference.IsWellFormed ∧ reference.text <+: text := by
  constructor
  · exact isWellFormed_of_atStart?
  · rintro ⟨formed, rest, rfl⟩
    exact atStart?_text_append formed rest

/-- Different references are spelled differently. -/
theorem eq_of_text_eq (formed : reference.IsWellFormed) (formed' : other.IsWellFormed)
    (same : reference.text = other.text) : reference = other := by
  have read := atStart?_text_append formed []
  rw [same, atStart?_text_append formed'] at read
  exact (Option.some.inj read).symm

theorem atStart?_eq_none_iff :
    atStart? text = none ↔
      ∀ reference : Reference, reference.IsWellFormed → ¬reference.text <+: text := by
  rw [Option.eq_none_iff_forall_ne_some]
  simp only [ne_eq, atStart?_eq_some_iff, not_and]

/-! ## Splitting -/

theorem partsOf.go_eq_drop (skipped : Nat) (text : List Char) :
    partsOf.go skipped text = partsOf (text.drop skipped) := by
  induction text generalizing skipped with
  | nil => cases skipped <;> rfl
  | cons c text ih =>
      cases skipped with
      | zero => rfl
      | succ skipped => exact ih skipped

theorem partsOf_cons_of_eq_none {c : Char} (none : atStart? (c :: rest) = none) :
    partsOf (c :: rest) = .plain c :: partsOf rest := by
  rw [partsOf, partsOf.go, none]
  rfl

theorem partsOf_text_append (formed : reference.IsWellFormed) (rest : List Char) :
    partsOf (reference.text ++ rest) = .reference reference :: partsOf rest := by
  have read := atStart?_text_append formed rest
  obtain ⟨c, tail, spelled⟩ := List.exists_cons_of_ne_nil (text_ne_nil reference)
  rw [spelled, List.cons_append] at read ⊢
  rw [partsOf, partsOf.go, read]
  dsimp only
  rw [partsOf.go_eq_drop, spelled, List.length_cons, Nat.add_sub_cancel, List.drop_left]

/-- The parts that are found are a split, behind as many characters as are skipped. -/
theorem splits_go (skipped : Nat) (text : List Char) :
    Splits (text.drop skipped) (partsOf.go skipped text) := by
  induction text generalizing skipped with
  | nil =>
      rw [List.drop_nil]
      cases skipped <;> exact .done
  | cons c text ih =>
      cases skipped with
      | succ skipped => exact ih skipped
      | zero =>
          rw [List.drop_zero, partsOf.go]
          split
          · rename_i reference read
            obtain ⟨formed, rest, whole⟩ := isWellFormed_of_atStart? read
            have others := ih (reference.text.length - 1)
            have behind : text.drop (reference.text.length - 1) = rest := by
              obtain ⟨first, tail, spelled⟩ := List.exists_cons_of_ne_nil (text_ne_nil reference)
              rw [spelled] at whole ⊢
              rw [← (List.cons.inj whole).2, List.length_cons, Nat.add_sub_cancel]
              exact List.drop_left
            rw [behind] at others
            rw [← whole]
            exact .reference formed others
          · rename_i none
            exact .plain (atStart?_eq_none_iff.mp none) (ih 0)

/-- **A text splits in exactly one way.** -/
theorem splits_iff : Splits text parts ↔ parts = partsOf text := by
  constructor
  · intro splits
    induction splits with
    | done => rfl
    | reference formed others ih => rw [partsOf_text_append formed, ih]
    | plain none others ih => rw [partsOf_cons_of_eq_none (atStart?_eq_none_iff.mpr none), ih]
  · rintro rfl
    exact splits_go 0 text

/-- The references that are replaced are the ones in the parts. -/
theorem references_partsOf (text : List Char) : references (partsOf text) = all text := by
  have found (skipped : Nat) : references (partsOf.go skipped text) = all.go skipped text := by
    induction text generalizing skipped with
    | nil => cases skipped <;> rfl
    | cons c text ih =>
        cases skipped with
        | succ skipped => exact ih skipped
        | zero =>
            rw [partsOf.go, all.go]
            cases atStart? (c :: text) with
            | some reference => exact congrArg (reference :: ·) (ih _)
            | none => exact ih 0
  exact found 0

theorem references_subset {behind : List Part} (ends : behind <:+ parts) :
    references behind ⊆ references parts :=
  (ends.sublist.filterMap Part.reference?).subset

namespace Splits

/-- The parts spell the text. -/
theorem flatMap_text (splits : Splits text parts) : parts.flatMap Part.text = text := by
  induction splits with
  | done => rfl
  | reference formed others ih => rw [List.flatMap_cons, ih, Part.text]
  | plain none others ih => rw [List.flatMap_cons, ih, Part.text, List.singleton_append]

/-- No reference starts at a character that stands alone. -/
theorem not_prefix_of_suffix (splits : Splits text parts) {c : Char} {behind : List Part}
    (ends : .plain c :: behind <:+ parts) (formed : reference.IsWellFormed) :
    ¬reference.text <+: c :: behind.flatMap Part.text := by
  induction splits with
  | done => exact absurd (List.suffix_nil.mp ends) (List.cons_ne_nil _ _)
  | reference formed' others ih =>
      rcases List.suffix_cons_iff.mp ends with here | later
      · cases here
      · exact ih later
  | plain none others ih =>
      rcases List.suffix_cons_iff.mp ends with here | later
      · cases here
        rw [others.flatMap_text]
        exact none reference formed
      · exact ih later

theorem isWellFormed (splits : Splits text parts) :
    ∀ reference ∈ references parts, reference.IsWellFormed := by
  induction splits with
  | done => exact fun _ listed => absurd listed List.not_mem_nil
  | reference formed others ih => exact List.forall_mem_cons.mpr ⟨formed, ih⟩
  | plain none others ih => exact ih

end Splits

end Reference

end NamedConstants
