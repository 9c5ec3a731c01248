import NamedConstants.Proofs.Source.Item

/-!
# Forms of types

The names and lifetimes in the type of an alias are words of the source, so they
are made of identifier characters (`isPlain_target_of_mem_fileItems?`).

Parentheses around a type mean nothing: `bare` drops all of them, `unwrapped`
those around the whole type.
-/

set_option autoImplicit false

namespace NamedConstants.Source

namespace TypeForm

/-! ## Names and lifetimes -/

/-- The names and lifetimes of the type are made of identifier characters. -/
def IsPlain : TypeForm → Prop
  | name ident => ∀ c ∈ ident.toList, IsIdentifierChar c
  | reference lifetime target =>
    (∀ name ∈ lifetime, ∀ c ∈ name.toList, IsIdentifierChar c) ∧ target.IsPlain
  | slice element => element.IsPlain
  | enclosed inner => inner.IsPlain
  | other => True

/-- A type that is read from such tokens is such a type. -/
theorem isPlain_ofTokens (tokens : List Token) (plain : ∀ token ∈ tokens, token.IsPlain) :
    (ofTokens tokens).IsPlain := by
  fun_induction ofTokens tokens with
  | case1 ident isRaw hole => trivial
  | case2 ident isRaw named =>
      cases plain _ List.mem_cons_self with
      | word own => exact isIdentifierChar_of_mem_wordText isRaw own
  | case3 inner ih =>
      cases plain _ List.mem_cons_self with
      | group inside => exact ih inside
  | case4 inner ih =>
      cases plain _ List.mem_cons_self with
      | group inside => exact ih inside
  | case5 => trivial
  | case6 => trivial
  | case7 isJoined lifetime rest plural ih =>
      obtain ⟨head, tail⟩ := List.forall_mem_cons.mp (List.forall_mem_cons.mp plain).2
      refine ⟨fun name own => ?_, ih tail⟩
      cases own
      cases head with
      | lifetime own => exact own
  | case8 isJoined rest first second third ih =>
      exact ⟨fun name own => absurd own (Option.not_mem_none name),
        ih (List.forall_mem_cons.mp plain).2⟩
  | case9 => trivial

end TypeForm

/-! ## The type of an alias -/

variable {rounds : Nat} {tokens : List Token}

theorem suffix_of_identAhead? {ident : String} {rest : List Token}
    (read : identAhead? tokens = some (ident, rest)) : rest <:+ tokens := by
  cases tokens with
  | nil => cases read
  | cons token tokens =>
      obtain ⟨spelled, -, same⟩ := Option.map_eq_some_iff.mp read
      cases same
      exact List.suffix_cons token rest

theorem isPlain_target_of_alias? {ident : String} {target : TypeForm}
    (plain : ∀ token ∈ tokens, token.IsPlain)
    (read : alias? rounds tokens = some (ident, target)) : target.IsPlain := by
  obtain ⟨behind, keyword, read⟩ := Option.bind_eq_some_iff.mp read
  obtain ⟨⟨found, others⟩, named, read⟩ := Option.bind_eq_some_iff.mp read
  obtain ⟨rest, sign, read⟩ := Option.bind_eq_some_iff.mp read
  obtain ⟨⟨own, last⟩, taken, read⟩ := Option.bind_eq_some_iff.mp read
  cases read
  refine TypeForm.isPlain_ofTokens own fun token listed => plain token ?_
  have inside : token ∈ rest := eq_append_of_taken? taken ▸ List.mem_append_left _ listed
  exact (suffix_of_after? keyword).mem
    ((suffix_of_identAhead? named).mem ((suffix_of_after? sign).mem inside))

/-- **The names in the type of an alias are made of identifier characters.** -/
theorem isPlain_target_of_mem_fileItems? {text : List Char} {items : List Item} {item : Alias}
    (read : fileItems? text = some items) (listed : .alias item ∈ items) :
    item.target.IsPlain := by
  obtain ⟨tokens, found, read⟩ := Option.bind_eq_some_iff.mp read
  obtain ⟨behind, matched, read⟩ := Option.bind_eq_some_iff.mp read
  obtain ⟨own, within, declared⟩ := exists_of_mem_items? read listed
  have plain (token : Token) (inside : token ∈ own) : token.IsPlain :=
    isPlain_of_fileTokens? found token ((suffix_of_after? matched).mem (within token inside))
  unfold Item.ofTokens at declared
  dsimp only at declared
  split at declared
  · cases declared
  · rename_i rest front
    split at declared
    · rename_i target _ read
      cases declared
      exact isPlain_target_of_alias?
        (fun token inside => plain token ((suffix_of_after? front).mem inside)) read
    · cases declared
    · cases declared

/-! ## Parentheses -/

namespace TypeForm

/-- The type without the parentheses around it. -/
def unwrapped : TypeForm → TypeForm
  | enclosed inner => inner.unwrapped
  | form => form

/-- The type without any parentheses. -/
def bare : TypeForm → TypeForm
  | name ident => name ident
  | reference lifetime target => reference lifetime target.bare
  | slice element => slice element.bare
  | enclosed inner => inner.bare
  | other => other

theorem text?_unwrapped (form : TypeForm) : form.unwrapped.text? = form.text? := by
  induction form with
  | enclosed inner ih => rw [unwrapped, ih, text?]
  | name ident => rfl
  | reference lifetime target => rfl
  | slice element => rfl
  | other => rfl

theorem bare_unwrapped (form : TypeForm) : form.unwrapped.bare = form.bare := by
  induction form with
  | enclosed inner ih => rw [unwrapped, ih, bare]
  | name ident => rfl
  | reference lifetime target => rfl
  | slice element => rfl
  | other => rfl

theorem isPlain_unwrapped {form : TypeForm} (plain : form.IsPlain) : form.unwrapped.IsPlain := by
  induction form with
  | enclosed inner ih => exact ih plain
  | name ident => exact plain
  | reference lifetime target => exact plain
  | slice element => exact plain
  | other => exact plain

/-- No parentheses are left around the type. -/
theorem unwrapped_ne_enclosed (form inner : TypeForm) : form.unwrapped ≠ enclosed inner := by
  induction form with
  | enclosed form ih => exact ih
  | name ident => exact TypeForm.noConfusion
  | reference lifetime target => exact TypeForm.noConfusion
  | slice element => exact TypeForm.noConfusion
  | other => exact TypeForm.noConfusion

end TypeForm

end NamedConstants.Source
