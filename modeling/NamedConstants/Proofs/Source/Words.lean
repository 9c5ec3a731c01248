import NamedConstants.Source.Token.Reader

/-!
# Words are made of identifier characters

Every word and every lifetime among the tokens of a file, inside of groups too,
is made of the characters that may stand inside an identifier
(`isPlain_of_fileTokens?`), so it holds no blank and no line feed. A literal holds
what stands in it, and so does the text of a documentation comment.
-/

set_option autoImplicit false

namespace NamedConstants.Source

/-! ## Words -/

/-- The character may stand in the spelling of an identifier, which starts with a
prefix if it is raw. -/
def IsIdentifierChar (c : Char) : Prop :=
  c = '#' ∨ Text.isIdentifierContinue c = true

instance (c : Char) : Decidable (IsIdentifierChar c) :=
  inferInstanceAs (Decidable (_ ∨ _))

/-- The words and lifetimes of the token are made of identifier characters. -/
inductive Token.IsPlain : Token → Prop
  | word {name : String} {isRaw : Bool} (own : ∀ c ∈ name.toList, Text.isIdentifierContinue c = true) :
    IsPlain (.word name isRaw)
  | lifetime {name : String} (own : ∀ c ∈ name.toList, IsIdentifierChar c) : IsPlain (.lifetime name)
  | mark {char : Char} {isJoined : Bool} : IsPlain (.mark char isJoined)
  | literal {value : Literal} : IsPlain (.literal value)
  | group {delimiter : Delimiter} {content : List Token}
    (inside : ∀ token ∈ content, IsPlain token) : IsPlain (.group delimiter content)

/-- The spelling of a word is made of identifier characters. -/
theorem isIdentifierChar_of_mem_wordText {name : String} (isRaw : Bool)
    (plain : ∀ c ∈ name.toList, Text.isIdentifierContinue c = true) :
    ∀ c ∈ (wordText name isRaw).toList, IsIdentifierChar c := by
  cases isRaw with
  | false => exact fun c own => Or.inr (plain c own)
  | true =>
      intro c own
      rw [wordText, if_pos rfl, String.toList_append, List.mem_append] at own
      rcases own with raw | own
      · have both : c = 'r' ∨ c = '#' := by simpa using raw
        rcases both with rfl | rfl
        · exact Or.inr (by decide)
        · exact Or.inl rfl
      · exact Or.inr (plain c own)

/-- What starts an identifier may also go on with one. -/
theorem isIdentifierContinue_of_isIdentifierStart {c : Char}
    (starts : Text.isIdentifierStart c = true) : Text.isIdentifierContinue c = true := by
  rw [Text.isIdentifierStart] at starts
  rw [Text.isIdentifierContinue]
  split at starts
  · rename_i small
    rw [if_pos small, Char.isAlphanum]
    rcases Bool.or_eq_true_iff.mp starts with letter | underscore
    · rw [letter, Bool.true_or, Bool.true_or]
    · rw [underscore, Bool.or_true]
  · rename_i large
    rw [if_neg large, starts, Bool.true_or]

theorem isIdentifierContinue_of_anyWord? {text name rest : List Char}
    (read : Source.anyWord? text = some (name, rest)) :
    ∀ c ∈ name, Text.isIdentifierContinue c = true := by
  cases text with
  | nil => cases read
  | cons c text =>
      rw [Source.anyWord?] at read
      split at read
      · rename_i starts
        cases read
        exact List.forall_mem_cons.mpr ⟨isIdentifierContinue_of_isIdentifierStart starts,
          List.all_eq_true.mp List.all_takeWhile⟩
      · cases read

theorem isPlain_of_word? {text rest : List Char} {token : Token}
    (read : word? text = some (token, rest)) : token.IsPlain := by
  have named {front name behind : List Char} (read : Source.anyWord? front = some (name, behind))
      (isRaw : Bool) : Token.IsPlain (.word (String.ofList name) isRaw) := by
    refine .word ?_
    rw [String.toList_ofList]
    exact isIdentifierContinue_of_anyWord? read
  unfold word? at read
  split at read
  · split at read
    · rename_i found
      split at read
      · cases read
      · cases read
        exact named found true
    · cases read
  · obtain ⟨⟨name, behind⟩, found, same⟩ := Option.map_eq_some_iff.mp read
    cases same
    exact named found false

theorem isPlain_of_lifetime? {text rest : List Char} {token : Token}
    (read : lifetime? text = some (token, rest)) : token.IsPlain := by
  unfold lifetime? at read
  split at read
  · rename_i name isRaw behind found
    cases isPlain_of_word? found with
    | word own =>
        have spelled : Token.IsPlain (.lifetime (wordText name isRaw)) :=
          .lifetime (isIdentifierChar_of_mem_wordText isRaw own)
        split at read
        · cases read
        · split at read
          · cases read
            exact spelled
          · cases read
        · cases read
          exact spelled
  · cases read

theorem isPlain_of_leaf? {text rest : List Char} {token : Token}
    (read : leaf? text = some (token, rest)) : token.IsPlain := by
  unfold leaf? at read
  split at read
  · cases read
    exact .literal
  · split at read
    · exact isPlain_of_lifetime? read
    · split at read
      · cases read
        exact .mark
      · split at read
        · cases read
        · exact isPlain_of_word? read
    · cases read

/-! ## Tokens of a file -/

/-- The words and lifetimes of the piece are made of identifier characters. -/
def Piece.IsPlain : Piece → Prop
  | .token own => own.IsPlain
  | _ => True

theorem isPlain_of_mem_toTokens {comment : Comment} {token : Token}
    (listed : token ∈ comment.toTokens) : token.IsPlain := by
  have content : Token.IsPlain (.group .bracket
      [.word "doc" false, .mark '=' false, .literal (.string comment.text)]) := by
    refine .group fun token inside => ?_
    simp only [List.mem_cons, List.not_mem_nil, or_false] at inside
    rcases inside with rfl | rfl | rfl
    · exact .word (List.all_eq_true.mp rfl)
    · exact .mark
    · exact .literal
  unfold Comment.toTokens at listed
  split at listed
  · simp only [List.mem_cons, List.not_mem_nil, or_false] at listed
    rcases listed with rfl | rfl | rfl
    · exact .mark
    · exact .mark
    · exact content
  · simp only [List.mem_cons, List.not_mem_nil, or_false] at listed
    rcases listed with rfl | rfl
    · exact .mark
    · exact content

theorem isPlain_of_bracketOf? {c : Char} {piece : Piece} (read : bracketOf? c = some piece) :
    piece.IsPlain := by
  unfold bracketOf? at read
  split at read <;> cases read <;> exact trivial

theorem isPlain_of_pieces? {rounds : Nat} {text : List Char} {pieces : List Piece}
    (read : pieces? rounds text = some pieces) : ∀ piece ∈ pieces, piece.IsPlain := by
  induction rounds generalizing text pieces with
  | zero => cases read
  | succ rounds ih =>
      rw [pieces?] at read
      split at read
      · obtain ⟨others, found, rfl⟩ := Option.map_eq_some_iff.mp read
        intro piece listed
        rcases List.mem_append.mp listed with own | later
        · obtain ⟨token, inside, rfl⟩ := List.mem_map.mp own
          exact isPlain_of_mem_toTokens inside
        · exact ih found piece later
      · split at read
        · cases read
          intro piece listed
          cases listed
        · split at read
          · rename_i bracket
            obtain ⟨others, found, rfl⟩ := Option.map_eq_some_iff.mp read
            exact List.forall_mem_cons.mpr ⟨isPlain_of_bracketOf? bracket, ih found⟩
          · split at read
            · rename_i leaf
              obtain ⟨others, found, rfl⟩ := Option.map_eq_some_iff.mp read
              exact List.forall_mem_cons.mpr ⟨isPlain_of_leaf? leaf, ih found⟩
            · cases read

/-- Grouping keeps the tokens. -/
theorem isPlain_of_nest? {stack : List OpenGroup} {current tokens : List Token}
    {pieces : List Piece} (grouped : nest? stack current pieces = some tokens)
    (outer : ∀ group ∈ stack, ∀ token ∈ group.2, token.IsPlain)
    (inner : ∀ token ∈ current, token.IsPlain) (plain : ∀ piece ∈ pieces, piece.IsPlain) :
    ∀ token ∈ tokens, token.IsPlain := by
  fun_induction nest? stack current pieces with
  | case1 current =>
      cases grouped
      exact fun token listed => inner token (List.mem_reverse.mp listed)
  | case2 => cases grouped
  | case3 stack current token rest ih =>
      obtain ⟨head, tail⟩ := List.forall_mem_cons.mp plain
      exact ih grouped outer (List.forall_mem_cons.mpr ⟨head, inner⟩) tail
  | case4 stack current delimiter rest ih =>
      exact ih grouped (List.forall_mem_cons.mpr ⟨inner, outer⟩)
        (fun token listed => absurd listed List.not_mem_nil) (List.forall_mem_cons.mp plain).2
  | case5 => cases grouped
  | case6 opened before stack current delimiter rest same ih =>
      obtain ⟨head, tail⟩ := List.forall_mem_cons.mp outer
      have group : Token.IsPlain (.group delimiter current.reverse) :=
        .group fun token listed => inner token (List.mem_reverse.mp listed)
      exact ih grouped tail (List.forall_mem_cons.mpr ⟨group, head⟩)
        (List.forall_mem_cons.mp plain).2
  | case7 => cases grouped

/-- **Every word and lifetime of a file is made of identifier characters.** -/
theorem isPlain_of_fileTokens? {text : List Char} {tokens : List Token}
    (read : fileTokens? text = some tokens) : ∀ token ∈ tokens, token.IsPlain := by
  obtain ⟨pieces, found, grouped⟩ := Option.bind_eq_some_iff.mp read
  exact isPlain_of_nest? grouped (fun group listed => absurd listed List.not_mem_nil)
    (fun token listed => absurd listed List.not_mem_nil) (isPlain_of_pieces? found)

end NamedConstants.Source
