import NamedConstants.Proofs.Source.Phrase
import NamedConstants.Proofs.Source.Words
import NamedConstants.Source.Item

/-!
# Identifiers of items

An alias or a constant is named by a word among the tokens of its file, so its
identifier is made of identifier characters (`isIdentifierChar_of_mem_ident`)
and stands on one line (`lineFeed_not_mem_ident`).
-/

set_option autoImplicit false

namespace NamedConstants.Source

variable {rounds : Nat} {tokens rest own : List Token} {rule : Rule}

theorem suffix_of_after? (matched : after? rounds rule tokens = some rest) : rest <:+ tokens :=
  Phrase.suffix_of_matchWithin? matched

/-- What is taken stands in front of what follows. -/
theorem eq_append_of_taken? (matched : taken? rounds rule tokens = some (own, rest)) :
    tokens = own ++ rest := by
  obtain ⟨behind, found, same⟩ := Option.map_eq_some_iff.mp matched
  obtain ⟨front, rfl⟩ := suffix_of_after? found
  cases same
  rw [List.length_append, Nat.add_sub_cancel, List.take_left]

/-- A single word is the name of a type. -/
theorem TypeForm.ofTokens_word {ident : String} (named : ident ≠ "_") :
    TypeForm.ofTokens [.word ident false] = .name ident := by
  simp [TypeForm.ofTokens, wordText, named]

/-- A single literal is a value. -/
theorem ValueForm.ofTokens_literal (value : Literal) :
    ValueForm.ofTokens [.literal value] = .literal value := by
  simp [ValueForm.ofTokens]

/-! ## Identifiers -/

/-- The text is how a word among the tokens is spelled. -/
def IsWordOf (tokens : List Token) (ident : String) : Prop :=
  ∃ token ∈ tokens, token.anyWord? = some ident

theorem IsWordOf.mono {others : List Token} {ident : String} (word : IsWordOf tokens ident)
    (within : ∀ token ∈ tokens, token ∈ others) : IsWordOf others ident := by
  obtain ⟨token, listed, spelled⟩ := word
  exact ⟨token, within token listed, spelled⟩

theorem isWordOf_of_identAhead? {ident : String} (read : identAhead? tokens = some (ident, rest)) :
    IsWordOf tokens ident := by
  cases tokens with
  | nil => cases read
  | cons token tokens =>
      obtain ⟨spelled, found, same⟩ := Option.map_eq_some_iff.mp read
      cases same
      exact ⟨token, List.mem_cons_self, found⟩

theorem isWordOf_of_alias? {ident : String} {target : TypeForm}
    (read : alias? rounds tokens = some (ident, target)) : IsWordOf tokens ident := by
  obtain ⟨behind, keyword, read⟩ := Option.bind_eq_some_iff.mp read
  obtain ⟨⟨found, others⟩, named, read⟩ := Option.bind_eq_some_iff.mp read
  obtain ⟨_, _, read⟩ := Option.bind_eq_some_iff.mp read
  obtain ⟨_, _, read⟩ := Option.bind_eq_some_iff.mp read
  cases read
  exact (isWordOf_of_identAhead? named).mono fun token listed =>
    (suffix_of_after? keyword).mem listed

theorem isWordOf_of_constant? {ident : String} {type : TypeForm} {value : ValueForm}
    (read : constant? rounds tokens = some (ident, type, value)) : IsWordOf tokens ident := by
  obtain ⟨behind, keyword, read⟩ := Option.bind_eq_some_iff.mp read
  obtain ⟨⟨found, others⟩, named, read⟩ := Option.bind_eq_some_iff.mp read
  obtain ⟨_, _, read⟩ := Option.bind_eq_some_iff.mp read
  obtain ⟨_, _, read⟩ := Option.bind_eq_some_iff.mp read
  obtain ⟨_, _, read⟩ := Option.bind_eq_some_iff.mp read
  obtain ⟨_, _, read⟩ := Option.bind_eq_some_iff.mp read
  obtain ⟨_, _, read⟩ := Option.bind_eq_some_iff.mp read
  cases read
  exact (isWordOf_of_identAhead? named).mono fun token listed =>
    (suffix_of_after? keyword).mem listed

/-- The identifier of an item that declares something. -/
def Item.ident? : Item → Option String
  | .alias item => some item.ident
  | .constant item => some item.ident
  | .other => none

theorem isWordOf_of_ident? {ident : String}
    (named : (Item.ofTokens rounds tokens).ident? = some ident) : IsWordOf tokens ident := by
  unfold Item.ofTokens at named
  dsimp only at named
  split at named
  · cases named
  · rename_i behind matched
    have within (token : Token) (listed : token ∈ behind) : token ∈ tokens :=
      (suffix_of_after? matched).mem listed
    split at named
    · rename_i read
      cases named
      exact (isWordOf_of_alias? read).mono within
    · rename_i read
      cases named
      exact (isWordOf_of_constant? read).mono within
    · cases named

/-- Every item is read from tokens of the file. -/
theorem exists_of_mem_items? {count : Nat} {items : List Item} {item : Item}
    (read : items? rounds count tokens = some items) (listed : item ∈ items) :
    ∃ own, (∀ token ∈ own, token ∈ tokens) ∧ item = .ofTokens rounds own := by
  induction count generalizing tokens items with
  | zero =>
      cases tokens with
      | nil =>
          cases read
          cases listed
      | cons token tokens => cases read
  | succ count ih =>
      cases tokens with
      | nil =>
          cases read
          cases listed
      | cons token tokens =>
          obtain ⟨⟨own, behind⟩, taken, read⟩ := Option.bind_eq_some_iff.mp read
          obtain ⟨others, later, same⟩ := Option.bind_eq_some_iff.mp read
          cases same
          have split := eq_append_of_taken? taken
          rcases List.mem_cons.mp listed with rfl | behind
          · exact ⟨own, fun token inside => split ▸ List.mem_append_left _ inside, rfl⟩
          · obtain ⟨tokens', within, rfl⟩ := ih later behind
            exact ⟨tokens', fun token inside => split ▸
              List.mem_append_right _ (within token inside), rfl⟩

/-- **An identifier of an item is made of identifier characters**, but for the
prefix of a raw one. -/
theorem isIdentifierChar_of_mem_ident {text : List Char} {items : List Item} {item : Item}
    {ident : String} (read : fileItems? text = some items) (listed : item ∈ items)
    (named : item.ident? = some ident) :
    ∀ c ∈ ident.toList, IsIdentifierChar c := by
  obtain ⟨tokens, found, read⟩ := Option.bind_eq_some_iff.mp read
  obtain ⟨behind, matched, read⟩ := Option.bind_eq_some_iff.mp read
  obtain ⟨own, within, rfl⟩ := exists_of_mem_items? read listed
  obtain ⟨token, inside, spelled⟩ := isWordOf_of_ident? named
  have plain := isPlain_of_fileTokens? found token
    ((suffix_of_after? matched).mem (within token inside))
  cases plain with
  | @word name isRaw own =>
      cases spelled
      exact isIdentifierChar_of_mem_wordText isRaw own
  | lifetime own => cases spelled
  | mark => cases spelled
  | literal => cases spelled
  | group inside => cases spelled

/-- No identifier of an item holds a line feed. -/
theorem lineFeed_not_mem_ident {text : List Char} {items : List Item} {item : Item}
    {ident : String} (read : fileItems? text = some items) (listed : item ∈ items)
    (named : item.ident? = some ident) : '\n' ∉ ident.toList := by
  intro feed
  rcases isIdentifierChar_of_mem_ident read listed named _ feed with hash | continues
  · exact absurd hash (by decide)
  · exact absurd continues (by decide)

end NamedConstants.Source
