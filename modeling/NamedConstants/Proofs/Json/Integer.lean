import NamedConstants.Proofs.Json.Token
import NamedConstants.Proofs.Scalar.IntegerText

/-!
# JSON texts that are an integer

The reader of JSON gives an integer for no other text than one that spells it between
blanks (`spells_of_ofText?`). The stack machine that reads the tokens has then read one
token, since every value that it puts together of several ones is a container
(`ofTokens?_eq_some`); and the token is a number without a point and an exponent, since
everything with one of these is a float.
-/

set_option autoImplicit false

namespace NamedConstants.Json

open BinaryFloat (spanDigits digitsValue)
open IntegerText (Spells withSign)

/-! ## One token -/

/-- The value is made of other values. -/
def isContainer : Json → Bool
  | array _ => true
  | object _ => true
  | _ => false

namespace Reading

/-- A container is open, or one has been closed. -/
def IsEnclosed (state : Reading) : Prop :=
  state.stack ≠ [] ∨ ∃ value, state.expectation = .next value ∧ value.isContainer = true

/-- The first token of a value is the whole value, or it opens a container. -/
theorem stepValue_eq_some {stack : List Frame} {token : Token} {next : Reading}
    (stepped : stepValue stack token = some next) :
    next.stack ≠ [] ∨ next.stack = stack ∧ ∃ value, next.expectation = .next value ∧
      (token = .scalar value ∨ ∃ text, token = .string text ∧ value = .string text) := by
  unfold stepValue at stepped
  split at stepped
  case h_1 value =>
    cases stepped
    exact .inr ⟨rfl, value, rfl, .inl rfl⟩
  case h_2 text =>
    cases stepped
    exact .inr ⟨rfl, _, rfl, .inr ⟨text, rfl, rfl⟩⟩
  case h_5 => cases stepped
  all_goals
    split at stepped
    · cases stepped
      exact .inl (List.cons_ne_nil _ _)
    · cases stepped

/-- What is read inside a container leaves it open or closes it. -/
theorem isEnclosed_of_step {state next : Reading} {token : Token} (opened : state.stack ≠ [])
    (stepped : state.step token = some next) : next.IsEnclosed := by
  have value (stepped : stepValue state.stack token = some next) : next.IsEnclosed := by
    rcases stepValue_eq_some stepped with opened' | ⟨kept, -⟩
    · exact .inl opened'
    · exact .inl (kept ▸ opened)
  unfold step at stepped
  split at stepped
  case h_1 => exact value stepped
  case h_3 => exact value stepped
  case h_12 => cases stepped
  all_goals cases stepped
  -- a container is closed
  case h_2 | h_4 | h_10 | h_11 => exact .inr ⟨_, rfl, rfl⟩
  -- a key has been read
  case h_5 | h_6 => exact .inl opened
  case h_7 | h_8 | h_9 => exact .inl (List.cons_ne_nil _ _)

/-- Nothing is read behind a whole value. -/
theorem step_next (value : Json) (token : Token) : step ⟨[], .next value⟩ token = none := by
  cases token <;> rfl

theorem isEnclosed_of_run {tokens : List Token} {state last : Reading} (enclosed : state.IsEnclosed)
    (read : state.run tokens = some last) : last.IsEnclosed := by
  induction tokens generalizing state with
  | nil =>
      cases read
      exact enclosed
  | cons token tokens ih =>
      rw [run] at read
      cases stepped : state.step token with
      | none =>
          rw [stepped] at read
          cases read
      | some next =>
          rw [stepped] at read
          obtain ⟨stack, expectation⟩ := state
          cases stack with
          | cons frame stack => exact ih (isEnclosed_of_step (List.cons_ne_nil _ _) stepped) read
          | nil =>
              rcases enclosed with opened | ⟨value, rfl, -⟩
              · exact absurd rfl opened
              · rw [step_next] at stepped
                cases stepped

/-- A whole value is the last thing that is read. -/
theorem run_next {value : Json} {tokens : List Token} {last : Reading}
    (read : run ⟨[], .next value⟩ tokens = some last) : tokens = [] ∧ last = ⟨[], .next value⟩ := by
  cases tokens with
  | nil => exact ⟨rfl, (Option.some.inj read).symm⟩
  | cons token tokens =>
      rw [run, step_next] at read
      cases read

theorem result?_eq_some {state : Reading} {value : Json} (result : state.result? = some value) :
    state = ⟨[], .next value⟩ := by
  obtain ⟨stack, expectation⟩ := state
  unfold result? at result
  split at result
  case h_1 empty next =>
    cases result
    dsimp only at empty next
    rw [empty, next]
  case h_2 => cases result

end Reading

/-- **A value that is no container is read from one token.** -/
theorem ofTokens?_eq_some {tokens : List Token} {value : Json}
    (read : ofTokens? tokens = some value) (simple : value.isContainer = false) :
    tokens = [.scalar value] ∨ ∃ text, tokens = [.string text] ∧ value = .string text := by
  obtain ⟨last, ran, result⟩ := Option.bind_eq_some_iff.mp read
  cases Reading.result?_eq_some result
  cases tokens with
  | nil => cases ran
  | cons token tokens =>
      rw [Reading.run] at ran
      cases stepped : Reading.start.step token with
      | none =>
          rw [stepped] at ran
          cases ran
      | some next =>
          rw [stepped] at ran
          have first : Reading.stepValue [] token = some next := stepped
          rcases Reading.stepValue_eq_some first with opened | ⟨empty, own, expected, whole⟩
          · rcases Reading.isEnclosed_of_run (.inl opened) ran with open' | ⟨_, ⟨⟩, container⟩
            · exact absurd rfl open'
            · rw [simple] at container
              cases container
          · obtain ⟨stack, expectation⟩ := next
            cases empty
            cases expected
            obtain ⟨rfl, same⟩ := Reading.run_next ran
            cases same
            rcases whole with rfl | ⟨text, rfl, written⟩
            · exact .inl rfl
            · exact .inr ⟨text, rfl, written⟩

/-! ## The text of the token -/

theorem isSpace_takeWhile (text : List Char) : ∀ c ∈ text.takeWhile isSpace, isSpace c = true :=
  List.all_eq_true.mp List.all_takeWhile

theorem isSpace_of_dropWhile {text : List Char} (empty : text.dropWhile isSpace = []) :
    ∀ c ∈ text, isSpace c = true := by
  have parts : text.takeWhile isSpace ++ text.dropWhile isSpace = text :=
    List.takeWhile_append_dropWhile
  rw [empty, List.append_nil] at parts
  rw [← parts]
  exact isSpace_takeWhile text

/-- A text without tokens consists of blanks. -/
theorem isSpace_of_tokensWithin? {bound : Nat} {text : List Char}
    (cut : tokensWithin? bound text = some []) : ∀ c ∈ text, isSpace c = true := by
  refine isSpace_of_dropWhile ?_
  cases bound with
  | zero =>
      rw [tokensWithin?] at cut
      split at cut
      case isTrue empty => exact List.isEmpty_iff.mp empty
      case isFalse => cases cut
  | succ bound =>
      rw [tokensWithin?] at cut
      split at cut
      case h_1 empty => exact empty
      case h_2 =>
        split at cut
        case h_1 =>
          obtain ⟨_, -, same⟩ := Option.map_eq_some_iff.mp cut
          cases same
        case h_2 => cases cut

/-- A text of one token has nothing but blanks around it. -/
theorem tokens?_eq_singleton {text : List Char} {token : Token} (cut : tokens? text = some [token]) :
    ∃ before core after, text = before ++ core ∧ (∀ c ∈ before, isSpace c = true) ∧
      token? core = some (token, after) ∧ ∀ c ∈ after, isSpace c = true := by
  have parts : text = text.takeWhile isSpace ++ text.dropWhile isSpace :=
    List.takeWhile_append_dropWhile.symm
  rw [tokens?] at cut
  cases length : text.length with
  | zero =>
      rw [length, tokensWithin?] at cut
      split at cut
      · cases cut
      · cases cut
  | succ bound =>
      rw [length, tokensWithin?] at cut
      split at cut
      case h_1 => cases cut
      case h_2 =>
        split at cut
        case h_1 after first =>
          obtain ⟨others, rest, same⟩ := Option.map_eq_some_iff.mp cut
          cases same
          exact ⟨_, _, after, parts, isSpace_takeWhile text, first, isSpace_of_tokensWithin? rest⟩
        case h_2 => cases cut

theorem token?_eq_integer {text rest : List Char} {value : Int}
    (cut : token? text = some (.scalar (.integer value), rest)) :
    number? text = some (.integer value, rest) := by
  unfold token? at cut
  split at cut
  case h_11 =>
    obtain ⟨⟨number, after⟩, read, same⟩ := Option.map_eq_some_iff.mp cut
    cases same
    exact read
  case h_7 =>
    obtain ⟨_, -, same⟩ := Option.map_eq_some_iff.mp cut
    cases same
  all_goals cases cut

/-! ## The number -/

section Number

variable {negative : Bool} {significand : Nat} {text rest : List Char}

/-- A scaled significand is a float. -/
theorem float_of_scale {exponent : Int} {value : Json} {after : List Char}
    (read : ((scale significand exponent).map fun x => (signed negative x, after)) =
      some (value, rest)) : ∃ x, value = .float x := by
  obtain ⟨x, -, same⟩ := Option.map_eq_some_iff.mp read
  cases same
  exact ⟨_, rfl⟩

/-- A number with an exponent is a float. -/
theorem float_of_withExponent {start : Int} {value : Json}
    (read : withExponent negative significand start text = some (value, rest)) :
    ∃ x, value = .float x := by
  unfold withExponent at read
  -- the sign of the exponent
  split at read
  all_goals
    dsimp only at read
    split at read
    · cases read
    · split at read
      · exact float_of_scale read
      · split at read
        · cases read
        · cases read
          exact ⟨_, rfl⟩

theorem float_of_afterDigits {start : Int} {value : Json}
    (read : afterDigits negative significand start text = some (value, rest)) :
    ∃ x, value = .float x := by
  cases text with
  | nil => exact float_of_scale read
  | cons c text =>
      rw [afterDigits] at read
      split at read
      · exact float_of_withExponent read
      · exact float_of_scale read

/-- A number with a point is a float. -/
theorem float_of_withFraction {start : Int} {value : Json}
    (read : withFraction negative significand start text = some (value, rest)) :
    ∃ x, value = .float x := by
  unfold withFraction at read
  dsimp only at read
  split at read
  · cases read
  · exact float_of_afterDigits read

/-- Digits that have been collected to the last one spell the number. -/
theorem eq_of_collect {value : Nat} (all : collect value text = (significand, [])) :
    significand = Nat.ofDigitChars 10 text value := by
  induction text generalizing value with
  | nil => exact (Prod.mk.inj all).1.symm
  | cons c text ih =>
      rw [collect] at all
      split at all
      · rw [Nat.ofDigitChars_cons]
        exact ih all
      · cases all

theorem eq_of_wholeNumber {value : Int} (whole : wholeNumber negative significand = .integer value) :
    value = withSign negative significand := by
  unfold wholeNumber at whole
  split at whole
  case isTrue unsigned =>
    cases whole
    rw [Bool.not_eq_true'] at unsigned
    rw [unsigned]
    rfl
  case isFalse minus =>
    rw [Bool.not_eq_true', Bool.not_eq_false] at minus
    split at whole
    · cases whole
      rw [minus]
      rfl
    · cases whole

/-- A number that is an integer ends with its digits. -/
theorem digits_of_unsignedNumber {value : Int}
    (read : unsignedNumber negative text = some (.integer value, rest)) :
    ∃ digits, text = digits ++ rest ∧ AllDigits digits ∧ digits ≠ [] ∧
      value = withSign negative (digitsValue digits) := by
  have parts : text = (spanDigits text).1 ++ (spanDigits text).2 :=
    List.takeWhile_append_dropWhile.symm
  have all : AllDigits (spanDigits text).1 := List.all_eq_true.mp List.all_takeWhile
  unfold unsignedNumber at read
  dsimp only at read
  split at read
  case isTrue => cases read
  case isFalse written =>
    have some : (spanDigits text).1 ≠ [] := by
      intro empty
      rw [empty] at written
      exact written rfl
    split at read
    case h_1 =>
      obtain ⟨x, same⟩ := float_of_withFraction read
      cases same
    case h_2 =>
      split at read
      case isTrue collected =>
        obtain ⟨whole, same⟩ := Prod.mk.inj (Option.some.inj read)
        simp only [Bool.and_eq_true, List.isEmpty_iff] at collected
        have spelled : (collect 0 (spanDigits text).1).1 = digitsValue (spanDigits text).1 :=
          eq_of_collect (Prod.ext rfl collected.1.1)
        rw [eq_of_wholeNumber whole, spelled, ← same]
        exact ⟨(spanDigits text).1, parts, all, some, rfl⟩
      case isFalse =>
        obtain ⟨x, same⟩ := float_of_afterDigits read
        cases same

end Number

/-- The text of a number that is an integer spells it. -/
theorem spells_of_number? {text rest : List Char} {value : Int}
    (read : number? text = some (.integer value, rest)) :
    ∃ body, text = body ++ rest ∧ Spells body value := by
  unfold number? at read
  split at read
  case h_1 =>
    obtain ⟨digits, rfl, all, some, rfl⟩ := digits_of_unsignedNumber read
    exact ⟨'-' :: digits, rfl, .minus all some⟩
  case h_2 =>
    obtain ⟨digits, rfl, all, some, rfl⟩ := digits_of_unsignedNumber read
    exact ⟨digits, rfl, .unsigned all some⟩

theorem isBlank_of_isSpace {c : Char} (space : isSpace c = true) : Text.isBlank c = true := by
  simp only [isSpace, Bool.or_eq_true, beq_iff_eq] at space
  rcases space with ((rfl | rfl) | rfl) | rfl
  all_goals decide

/-- **A text that JSON reads as an integer spells it between blanks.** -/
theorem spells_of_ofText? {text : List Char} {value : Int}
    (read : ofText? text = some (.integer value)) : Spells (Text.trim text) value := by
  obtain ⟨tokens, cut, whole⟩ := Option.bind_eq_some_iff.mp read
  rcases ofTokens?_eq_some whole rfl with rfl | ⟨_, -, written⟩
  · obtain ⟨before, core, after, rfl, space, first, space'⟩ := tokens?_eq_singleton cut
    obtain ⟨body, rfl, spelled⟩ := spells_of_number? (token?_eq_integer first)
    rw [spelled.trim_between (fun c member => isBlank_of_isSpace (space c member))
      fun c member => isBlank_of_isSpace (space' c member)]
    exact spelled
  · cases written

end NamedConstants.Json
