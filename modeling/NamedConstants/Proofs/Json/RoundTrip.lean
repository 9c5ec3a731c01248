import Mathlib.Logic.Basic
import NamedConstants.Proofs.Json.Regular
import NamedConstants.Proofs.Json.WellFormed

/-!
# JSON texts are read back

A value is written as a list of tokens (`tokens`) without anything between them. The reader first
cuts the text into these tokens (`cuts_write`): a number is the only token whose end depends on
what follows, and behind a value there is a comma, a bracket or nothing. Then it puts the value
together from them, with a stack of the containers that are open (`run_tokens`). The members of an
object are inserted one by one, which leaves them as they were if they stand in order, and the
stack has room for the containers around every part of the value exactly if the value is not
deeper than the limit. Together they read an exact value back from its text if it is not too deep,
and nothing otherwise (`ofText?_write`).
-/

set_option autoImplicit false

namespace NamedConstants.Json

/-! ## The tokens of a value -/

mutual

/-- The tokens a value is written with. -/
def tokens : Json → List Token
  | .string text => [.string text]
  | .array elements => .openArray :: (elementTokens elements ++ [.closeArray])
  | .object members => .openObject :: (memberTokens members ++ [.closeObject])
  | value => [.scalar value]

/-- The tokens of the elements of an array with commas between them. -/
def elementTokens : List Json → List Token
  | [] => []
  | [value] => tokens value
  | value :: rest => tokens value ++ .comma :: elementTokens rest

/-- The tokens of the members of an object with commas between them. -/
def memberTokens : List (String × Json) → List Token
  | [] => []
  | [(key, value)] => .string key :: .colon :: tokens value
  | (key, value) :: rest => .string key :: .colon :: (tokens value ++ .comma :: memberTokens rest)

end

/-! ## Cutting a text -/

/-- In front of `rest`, the text is cut into the tokens. -/
structure Cuts (text : List Char) (tokens : List Token) (rest : List Char) : Prop where
  length_le : tokens.length ≤ text.length
  cut : ∀ bound, tokensWithin? (tokens.length + bound) (text ++ rest) =
    (tokensWithin? bound rest).map (tokens ++ ·)

namespace Cuts

theorem nil (rest : List Char) : Cuts [] [] rest where
  length_le := Nat.le_refl 0
  cut bound := by
    rw [List.length_nil, Nat.zero_add, List.nil_append]
    exact Option.map_id'.symm

variable {text more rest : List Char} {tokens others : List Token}

theorem append (first : Cuts text tokens (more ++ rest)) (second : Cuts more others rest) :
    Cuts (text ++ more) (tokens ++ others) rest where
  length_le := by
    rw [List.length_append, List.length_append]
    exact Nat.add_le_add first.length_le second.length_le
  cut bound := by
    rw [List.length_append, Nat.add_assoc, List.append_assoc, first.cut, second.cut,
      Option.map_map]
    refine congrArg (Option.map · _) (funext fun last => ?_)
    exact (List.append_assoc tokens others last).symm

/-- A token that is read from the front of the text is cut off. -/
theorem of_token? {c : Char} {token : Token} (visible : isSpace c = false)
    (read : token? (c :: text ++ rest) = some (token, rest)) : Cuts (c :: text) [token] rest where
  length_le := Nat.le_add_left 1 text.length
  cut bound := by
    have kept : (c :: text ++ rest).dropWhile isSpace = c :: (text ++ rest) :=
      List.dropWhile_cons_of_neg (Bool.eq_false_iff.mp visible)
    rw [List.length_singleton, Nat.add_comm, tokensWithin?, kept]
    dsimp only
    rw [List.cons_append] at read
    rw [read]
    rfl

/-- A character that is a token by itself is cut off. -/
theorem cons {c : Char} {token : Token} (visible : isSpace c = false)
    (read : ∀ rest, token? (c :: rest) = some (token, rest)) (later : Cuts more others rest) :
    Cuts (c :: more) (token :: others) rest :=
  have first : Cuts [c] [token] (more ++ rest) := of_token? visible (read _)
  first.append later

end Cuts

/-- A whole text that is cut into tokens has these tokens. -/
theorem tokens?_of_cuts {text : List Char} {tokens : List Token} (cuts : Cuts text tokens []) :
    tokens? text = some tokens := by
  have cut := cuts.cut (text.length - tokens.length)
  rw [Nat.add_sub_cancel' cuts.length_le, List.append_nil, tokensWithin?_nil, Option.map_some,
    List.append_nil] at cut
  exact cut

/-! ## Cutting what is written -/

theorem endsInteger_cons {c : Char} (separates : c ∈ [',', ']', '\x7d']) (rest : List Char) :
    EndsInteger (c :: rest) := by
  intro first here
  cases here
  simp only [List.mem_cons, List.not_mem_nil, or_false] at separates
  rcases separates with rfl | rfl | rfl <;> decide

theorem cuts_integerText {value : Int} (fits : FitsWord value) {rest : List Char}
    (ends : EndsInteger rest) : Cuts (integerText value) [.scalar (.integer value)] rest := by
  obtain ⟨c, text, written, numeric⟩ := integerText_eq_cons value
  obtain ⟨least, most⟩ := fitsWord_iff.mp fits
  have read := number?_integerText least most ends
  rw [written] at read ⊢
  refine .of_token? (isSpace_of_numeric numeric) ?_
  rw [List.cons_append] at read ⊢
  rw [token?_of_head numeric, read, Option.map_some]

theorem cuts_writeString (text : String) (rest : List Char) :
    Cuts (writeString text) [.string text] rest :=
  .of_token? rfl (token?_writeString text rest)

/-- The value is cut into its tokens in front of everything that ends an integer. -/
def IsCut (value : Json) : Prop :=
  ∀ rest, EndsInteger rest → Cuts value.write value.tokens rest

theorem writeElements_cons_cons (value next : Json) (rest : List Json) :
    writeElements (value :: next :: rest) = value.write ++ ',' :: writeElements (next :: rest) := by
  rw [writeElements]
  exact List.cons_ne_nil next rest

theorem elementTokens_cons_cons (value next : Json) (rest : List Json) :
    elementTokens (value :: next :: rest) =
      value.tokens ++ .comma :: elementTokens (next :: rest) := by
  rw [elementTokens]
  exact List.cons_ne_nil next rest

theorem memberTokens_cons_cons (key : String) (value : Json) (next : String × Json)
    (rest : List (String × Json)) :
    memberTokens ((key, value) :: next :: rest) =
      .string key :: .colon :: (value.tokens ++ .comma :: memberTokens (next :: rest)) := by
  rw [memberTokens]
  exact List.cons_ne_nil next rest

theorem cuts_writeElements {elements : List Json} (each : ∀ value ∈ elements, value.IsCut)
    (rest : List Char) :
    Cuts (writeElements elements) (elementTokens elements) (']' :: rest) := by
  induction elements with
  | nil => exact .nil _
  | cons value elements ih =>
      obtain ⟨first, others⟩ := List.forall_mem_cons.mp each
      cases elements with
      | nil => exact first _ (endsInteger_cons (by decide) rest)
      | cons next elements =>
          rw [writeElements_cons_cons, elementTokens_cons_cons]
          exact .append (first _ (endsInteger_cons (by decide) _))
            (.cons rfl (fun _ => rfl) (ih others))

theorem cuts_writeMembers {members : Members} (each : ∀ member ∈ members, member.2.IsCut)
    (rest : List Char) :
    Cuts (writeMembers members) (memberTokens members) ('\x7d' :: rest) := by
  induction members with
  | nil => exact .nil _
  | cons member members ih =>
      obtain ⟨first, others⟩ := List.forall_mem_cons.mp each
      cases members with
      | nil =>
          exact .append (cuts_writeString member.1 _)
            (.cons rfl (fun _ => rfl) (first _ (endsInteger_cons (by decide) rest)))
      | cons next members =>
          rw [writeMembers_cons_cons, memberTokens_cons_cons]
          exact .append (cuts_writeString member.1 _) (.cons rfl (fun _ => rfl)
            (.append (first _ (endsInteger_cons (by decide) _))
              (.cons rfl (fun _ => rfl) (ih others))))

/-- **An exact value is cut into its tokens.** -/
theorem isCut_of_isExact {value : Json} (exact : value.IsExact) : value.IsCut := by
  induction exact with
  | null => exact fun rest _ => .of_token? rfl rfl
  | bool value =>
      cases value with
      | false => exact fun rest _ => .of_token? rfl rfl
      | true => exact fun rest _ => .of_token? rfl rfl
  | integer fits => exact fun rest ends => cuts_integerText fits ends
  | float never => exact never.elim
  | string text => exact fun rest _ => cuts_writeString text rest
  | array _ ih =>
      intro rest _
      rw [write, tokens]
      exact .cons rfl (fun _ => rfl)
        (.append (cuts_writeElements ih rest) (.cons rfl (fun _ => rfl) (.nil rest)))
  | object _ _ ih =>
      intro rest _
      rw [write, tokens]
      exact .cons rfl (fun _ => rfl)
        (.append (cuts_writeMembers ih rest) (.cons rfl (fun _ => rfl) (.nil rest)))

/-! ## Putting a value together -/

namespace Reading

theorem run_cons (state : Reading) (token : Token) (tokens : List Token) :
    state.run (token :: tokens) = (state.step token).bind (·.run tokens) := by
  rw [run]
  cases state.step token <;> rfl

theorem run_append (state : Reading) (first second : List Token) :
    state.run (first ++ second) = (state.run first).bind (·.run second) := by
  induction first generalizing state with
  | nil => rfl
  | cons token first ih =>
      rw [List.cons_append, run_cons, run_cons, Option.bind_assoc]
      exact congrArg _ (funext ih)

/-- What takes some room and then more of it takes all of it. -/
theorem bind_of_room {α β : Type} {some' all : Prop} [Decidable some'] [Decidable all] {first : α}
    {last : β} {next : α → Option β} (within : all → some')
    (read : some' → next first = if all then some last else none) :
    (if some' then some first else none).bind next = if all then some last else none := by
  by_cases room : some'
  · rw [if_pos room, Option.bind_some, read room]
  · rw [if_neg room, if_neg (mt within room), Option.bind_none]

/-- From its tokens the value is read with any stack that leaves room for its depth, and with no
other one within the limit. -/
def Reads (value : Json) : Prop :=
  ∀ stack, stack.length ≤ depthLimit → run ⟨stack, .value⟩ value.tokens =
    if stack.length + value.depth ≤ depthLimit then some ⟨stack, .next value⟩ else none

theorem run_elementTokens {elements : List Json} (written : elements ≠ [])
    (each : ∀ value ∈ elements, Reads value) {stack : List Frame}
    (room : stack.length < depthLimit) (done : List Json) :
    run ⟨.array done :: stack, .value⟩ (elementTokens elements ++ [.closeArray]) =
      if stack.length + 1 + elementsDepth elements ≤ depthLimit then
        some ⟨stack, .next (.array (done ++ elements))⟩
      else none := by
  induction elements generalizing done with
  | nil => exact absurd rfl written
  | cons value elements ih =>
      obtain ⟨first, others⟩ := List.forall_mem_cons.mp each
      have whole := first (.array done :: stack) room
      rw [List.length_cons] at whole
      cases elements with
      | nil =>
          have depth : elementsDepth [value] = value.depth := Nat.max_zero _
          rw [elementTokens, run_append, whole, depth]
          exact bind_of_room id fun room => (if_pos room).symm
      | cons next elements =>
          have comma (more : List Token) :
              run ⟨.array done :: stack, .next value⟩ (.comma :: more) =
                run ⟨.array (done ++ [value]) :: stack, .value⟩ more := rfl
          have tail := ih (List.cons_ne_nil _ _) others (done ++ [value])
          rw [elementTokens_cons_cons, List.append_assoc, run_append, whole, elementsDepth]
          refine bind_of_room (by omega) fun _ => ?_
          rw [List.cons_append, comma, tail, List.append_assoc, List.singleton_append]
          exact if_congr (by omega) rfl rfl

theorem run_memberTokens {members : Members} (written : members ≠ [])
    (each : ∀ member ∈ members, Reads member.2) {stack : List Frame}
    (room : stack.length < depthLimit) (done : Members) (last : String) :
    run ⟨.object done last :: stack, .key⟩ (memberTokens members ++ [.closeObject]) =
      if stack.length + 1 + membersDepth members ≤ depthLimit then
        some ⟨stack, .next (.object (members.foldl
          (fun sorted member => Members.insert member.1 member.2 sorted) done))⟩
      else none := by
  induction members generalizing done last with
  | nil => exact absurd rfl written
  | cons member members ih =>
      obtain ⟨key, value⟩ := member
      obtain ⟨(first : Reads value), others⟩ := List.forall_mem_cons.mp each
      have whole := first (.object done key :: stack) room
      rw [List.length_cons] at whole
      have named (more : List Token) :
          run ⟨.object done last :: stack, .key⟩ (.string key :: .colon :: more) =
            run ⟨.object done key :: stack, .value⟩ more := rfl
      cases members with
      | nil =>
          have depth : membersDepth [(key, value)] = value.depth := Nat.max_zero _
          rw [memberTokens, List.cons_append, List.cons_append, named, run_append, whole, depth]
          exact bind_of_room id fun room => (if_pos room).symm
      | cons next members =>
          have comma (more : List Token) :
              run ⟨.object done key :: stack, .next value⟩ (.comma :: more) =
                run ⟨.object (Members.insert key value done) "" :: stack, .key⟩ more := rfl
          have tail := ih (List.cons_ne_nil _ _) others (Members.insert key value done) ""
          rw [memberTokens_cons_cons, List.cons_append, List.cons_append, named, List.append_assoc,
            run_append, whole, membersDepth, List.foldl_cons]
          refine bind_of_room (by omega) fun _ => ?_
          rw [List.cons_append, comma, tail]
          exact if_congr (by omega) rfl rfl

/-- Behind a bracket a value is read as everywhere. -/
theorem run_element (value : Json) (stack : List Frame) (more : List Token) :
    run ⟨stack, .element⟩ (value.tokens ++ more) = run ⟨stack, .value⟩ (value.tokens ++ more) := by
  cases value <;> rfl

theorem run_firstElement {elements : List Json} (written : elements ≠ []) (stack : List Frame)
    (more : List Token) :
    run ⟨stack, .element⟩ (elementTokens elements ++ more) =
      run ⟨stack, .value⟩ (elementTokens elements ++ more) := by
  match elements, written with
  | [value], _ => exact run_element value stack more
  | value :: next :: rest, _ =>
      rw [elementTokens_cons_cons, List.append_assoc]
      exact run_element value stack _

theorem run_firstMember {members : Members} (written : members ≠ []) (stack : List Frame)
    (more : List Token) :
    run ⟨stack, .firstKey⟩ (memberTokens members ++ more) =
      run ⟨stack, .key⟩ (memberTokens members ++ more) := by
  match members, written with
  | [(key, value)], _ => rfl
  | (key, value) :: next :: rest, _ =>
      rw [memberTokens_cons_cons]
      rfl

/-- A value of one token is read with any stack. -/
theorem reads_of_token {value : Json} {token : Token} (single : value.tokens = [token])
    (read : ∀ stack, stepValue stack token = some ⟨stack, .next value⟩) (flat : value.depth = 0) :
    Reads value := by
  intro stack within
  have stepped : step ⟨stack, .value⟩ token = some ⟨stack, .next value⟩ := read stack
  rw [single, run_cons, stepped, flat, Nat.add_zero, if_pos within]
  rfl

/-- **A regular value is read from its tokens.** -/
theorem reads_of_isRegularWith {floats : Double → Prop} {value : Json}
    (regular : value.IsRegularWith floats) : Reads value := by
  induction regular with
  | null => exact reads_of_token rfl (fun _ => rfl) rfl
  | bool value => exact reads_of_token rfl (fun _ => rfl) rfl
  | integer fits => exact reads_of_token rfl (fun _ => rfl) rfl
  | float allowed => exact reads_of_token rfl (fun _ => rfl) rfl
  | string text => exact reads_of_token rfl (fun _ => rfl) rfl
  | @array elements _ ih =>
      intro stack _
      have opened : step ⟨stack, .value⟩ .openArray = if stack.length < depthLimit then
        some ⟨.array [] :: stack, .element⟩ else none := rfl
      rw [tokens, run_cons, opened, depth]
      cases elements with
      | nil => exact bind_of_room id fun room => (if_pos room).symm
      | cons value elements =>
          refine bind_of_room (by omega) fun room => ?_
          rw [run_firstElement (List.cons_ne_nil _ _), run_elementTokens (List.cons_ne_nil _ _) ih
            room, List.nil_append]
          exact if_congr (by omega) rfl rfl
  | @object members sorted _ ih =>
      intro stack _
      have opened : step ⟨stack, .value⟩ .openObject = if stack.length < depthLimit then
        some ⟨.object [] "" :: stack, .firstKey⟩ else none := rfl
      rw [tokens, run_cons, opened, depth]
      cases members with
      | nil => exact bind_of_room id fun room => (if_pos room).symm
      | cons member members =>
          refine bind_of_room (by omega) fun room => ?_
          rw [run_firstMember (List.cons_ne_nil _ _), run_memberTokens (List.cons_ne_nil _ _) ih
            room, Members.foldl_insert [] sorted, List.nil_append]
          exact if_congr (by omega) rfl rfl

end Reading

theorem ofTokens?_tokens {floats : Double → Prop} {value : Json}
    (regular : value.IsRegularWith floats) :
    ofTokens? value.tokens = if value.depth ≤ depthLimit then some value else none := by
  have read := Reading.reads_of_isRegularWith regular [] (Nat.zero_le _)
  rw [List.length_nil, Nat.zero_add] at read
  rw [ofTokens?, Reading.start, read]
  exact Reading.bind_of_room id fun room => (if_pos room).symm

/-- **An exact value is read back from its text if it is not too deep, and nothing otherwise.** -/
theorem ofText?_write {value : Json} (exact : value.IsExact) :
    ofText? value.write = if value.depth ≤ depthLimit then some value else none := by
  have cut := tokens?_of_cuts (isCut_of_isExact exact [] .nil)
  rw [ofText?, cut]
  exact ofTokens?_tokens exact

end NamedConstants.Json
