import NamedConstants.Source.Phrase

/-!
# What a phrase leaves

Matching takes tokens from the front only: what follows a match ends the tokens
it was read from (`suffix_of_matchWithin?`).
-/

set_option autoImplicit false

namespace NamedConstants.Source.Phrase

variable {Name : Type} {grammar : Name → Phrase Name} {tokens rest : List Token}

theorem suffix_of_afterMark? {chars : List Char} (matched : afterMark? chars tokens = some rest) :
    rest <:+ tokens := by
  fun_induction afterMark? chars tokens with
  | case1 tokens =>
      cases matched
      exact List.suffix_refl _
  | case2 c char isJoined behind same =>
      cases matched
      exact List.suffix_cons _ _
  | case3 => cases matched
  | case4 c next chars char isJoined behind same ih =>
      exact (ih matched).trans (List.suffix_cons _ _)
  | case5 => cases matched
  | case6 => cases matched

/-- **What follows a match ends the tokens.** -/
theorem suffix_of_matchWithin? {rounds : Nat} {phrase : Phrase Name}
    (matched : matchWithin? grammar rounds phrase tokens = some rest) : rest <:+ tokens := by
  induction rounds generalizing phrase tokens rest with
  | zero =>
      rw [matchWithin?] at matched
      cases matched
  | succ rounds ih =>
      cases phrase with
      | nothing =>
          cases matched
          exact List.suffix_refl _
      | finish =>
          rw [matchWithin?] at matched
          split at matched
          · cases matched
            exact List.nil_suffix
          · cases matched
      | token accepts =>
          unfold matchWithin? at matched
          split at matched
          · split at matched
            · cases matched
              exact List.suffix_cons _ _
            · cases matched
          · cases matched
      | mark chars => exact suffix_of_afterMark? matched
      | group delimiter content =>
          unfold matchWithin? at matched
          split at matched
          · split at matched
            · split at matched
              · cases matched
                exact List.suffix_cons _ _
              · cases matched
            · cases matched
          · cases matched
      | named name => exact ih matched
      | sequence first second =>
          rw [matchWithin?] at matched
          split at matched
          · rename_i between taken
            exact (ih matched).trans (ih taken)
          · cases matched
      | choice first second =>
          rw [matchWithin?] at matched
          split at matched
          · rename_i taken
            exact ih (taken.trans matched)
          · exact ih matched
      | repeated phrase =>
          rw [matchWithin?] at matched
          split at matched
          · rename_i between taken
            split at matched
            · exact (ih matched).trans (ih taken)
            · cases matched
              exact List.suffix_refl _
          · cases matched
            exact List.suffix_refl _
      | ahead phrase =>
          rw [matchWithin?] at matched
          split at matched
          · cases matched
            exact List.suffix_refl _
          · cases matched
      | notAhead phrase =>
          rw [matchWithin?] at matched
          split at matched
          · cases matched
          · cases matched
            exact List.suffix_refl _

end NamedConstants.Source.Phrase
