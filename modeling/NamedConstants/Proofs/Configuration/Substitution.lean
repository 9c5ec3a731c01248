import NamedConstants.Proofs.Configuration.References
import NamedConstants.Proofs.Result

/-!
# Replacing references one after the other

The references of a text are found before anything is replaced, but each is replaced
wherever its spelling stands by then. The outcome meant is the one where all are replaced at
once (`simultaneous`), and the two are not the same: a value may spell a reference whose turn
comes later, and the spelling of a reference may stand in the fallback of another one.

Both are excluded when the references are `Independent`. Then a step replaces the reference
where it was found and nowhere else (`replaceAll_shown`): the text in between is partly
replaced, and a spelling that would cross from there into a reference that is still to come
ends this one. So all steps together replace every reference once
(`substitute_eq_simultaneous`). Whether a reference has no value does not depend on the
steps, and the first one without a value is the failure.
-/

set_option autoImplicit false

namespace NamedConstants

namespace Reference

/-- What a reference stands for: the value of the variable, or else the fallback. -/
def meaning? (environment : Environment) (reference : Reference) : Option (List Char) :=
  ((environment.lookup (String.ofList reference.name)).map String.toList).or reference.fallback

/-- What stands in the text for a reference that is replaced. -/
def replacement (environment : Environment) (reference : Reference) : List Char :=
  (reference.meaning? environment).getD []

/-- A part when all references are replaced. -/
def replaced (environment : Environment) : Part → List Char
  | .plain c => [c]
  | .reference own => own.replacement environment

/-- The parts when all references are replaced at once. -/
def simultaneous (environment : Environment) (parts : List Part) : List Char :=
  parts.flatMap (replaced environment)

/-- No reference ends in the spelling of another one, and the parts with all references
replaced spell none but the first. -/
structure Independent (environment : Environment) (parts : List Part) : Prop where
  nested : ∀ first ∈ references parts, ∀ second ∈ references parts,
    first.text <:+ second.text → first = second
  spelled : ∀ reference ∈ (references parts).tail,
    ¬reference.text <:+: simultaneous environment parts

/-- A dollar sign starts references and stands nowhere else, not even in what they stand
for. -/
structure DollarStarts (environment : Environment) (parts : List Part) : Prop where
  plain : .plain '$' ∉ parts
  inside : ∀ reference ∈ references parts, '$' ∉ reference.text.tail
  replaced : ∀ reference ∈ references parts, '$' ∉ reference.replacement environment

/-- A part when the given references are replaced. -/
def shown (environment : Environment) (done : List Reference) : Part → List Char
  | .plain c => [c]
  | .reference own => if own ∈ done then own.replacement environment else own.text

/-- The reference is found and not yet replaced. -/
def IsPending (done : List Reference) (part : Part) : Prop :=
  ∃ own, part = .reference own ∧ own ∉ done

/-- The spelling of the reference starts nowhere in the parts that are not pending. -/
def StartsPending (environment : Environment) (done : List Reference) (reference : Reference)
    (parts : List Part) : Prop :=
  ∀ part rest, part :: rest <:+ parts → ¬IsPending done part →
    ∀ ending, ending ≠ [] → ending <:+ shown environment done part →
      ¬reference.text <+: ending ++ rest.flatMap (shown environment done)

variable {environment : Environment} {reference : Reference} {done : List Reference}
variable {parts : List Part} {text : List Char}

/-! ## Values -/

theorem value_eq (environment : Environment) (reference : Reference) :
    reference.value environment =
      match reference.meaning? environment with
      | some value => .ok value
      | none => .error (.variableNotSet (String.ofList reference.name)) := by
  unfold value meaning?
  cases environment.lookup (String.ofList reference.name) with
  | some value => rfl
  | none => cases reference.fallback <;> rfl

/-- A reference that stands for something is replaced, whatever the others are. -/
theorem replaceEach_cons_of_some {value : List Char}
    (meaning : reference.meaning? environment = some value) (others : List Reference)
    (text : List Char) :
    replaceEach environment (reference :: others) text =
      replaceEach environment others
        (Text.replaceAll reference.text (reference.replacement environment) text) := by
  rw [replaceEach, value_eq, meaning, replacement, meaning]
  rfl

theorem replaceEach_cons_of_none (meaning : reference.meaning? environment = none)
    (others : List Reference) (text : List Char) :
    replaceEach environment (reference :: others) text =
      .error (.variableNotSet (String.ofList reference.name)) := by
  rw [replaceEach, value_eq, meaning]
  rfl

/-- Replacing fails at the first reference that stands for nothing. -/
theorem replaceEach_eq_error_iff {references : List Reference} {failure : Failure} :
    replaceEach environment references text = .error failure ↔
      ∃ before reference after, references = before ++ reference :: after ∧
        (∀ other ∈ before, (other.meaning? environment).isSome) ∧
        reference.meaning? environment = none ∧
        failure = .variableNotSet (String.ofList reference.name) := by
  induction references generalizing text with
  | nil =>
      constructor
      · rintro ⟨⟩
      · rintro ⟨before, reference, after, split, -⟩
        simp at split
  | cons first others ih =>
      cases meaning : first.meaning? environment with
      | none =>
          rw [replaceEach_cons_of_none meaning]
          constructor
          · rintro ⟨⟩
            exact ⟨[], first, others, rfl, by simp, meaning, rfl⟩
          · rintro ⟨before, reference, after, split, known, -, rfl⟩
            cases before with
            | nil =>
                cases split
                rfl
            | cons own before =>
                cases split
                have known := known first List.mem_cons_self
                rw [meaning] at known
                cases known
      | some value =>
          rw [replaceEach_cons_of_some meaning, ih]
          constructor
          · rintro ⟨before, reference, after, rfl, known, missing, same⟩
            refine ⟨first :: before, reference, after, rfl, ?_, missing, same⟩
            exact List.forall_mem_cons.mpr ⟨Option.isSome_of_eq_some meaning, known⟩
          · rintro ⟨before, reference, after, split, known, missing, same⟩
            cases before with
            | nil =>
                cases split
                rw [meaning] at missing
                cases missing
            | cons own before =>
                cases split
                exact ⟨before, reference, after, rfl, (List.forall_mem_cons.mp known).2, missing,
                  same⟩

/-- Otherwise every reference is replaced in its turn. -/
theorem replaceEach_eq_ok {references : List Reference}
    (known : ∀ reference ∈ references, (reference.meaning? environment).isSome) :
    replaceEach environment references text = .ok (references.foldl (fun text reference =>
      Text.replaceAll reference.text (reference.replacement environment) text) text) := by
  induction references generalizing text with
  | nil => rfl
  | cons first others ih =>
      obtain ⟨own, rest⟩ := List.forall_mem_cons.mp known
      obtain ⟨value, meaning⟩ := Option.isSome_iff_exists.mp own
      rw [replaceEach_cons_of_some meaning, ih rest, List.foldl_cons]

/-! ## One step -/

theorem shown_nil (environment : Environment) : shown environment [] = Part.text := by
  funext part
  cases part <;> rfl

/-- What is not pending is shown as it stays. -/
theorem shown_of_not_isPending {part : Part} (settled : ¬IsPending done part) :
    shown environment done part = replaced environment part := by
  cases part with
  | plain c => rfl
  | reference own =>
      have listed : own ∈ done := Decidable.byContradiction fun waiting =>
        settled ⟨own, rfl, waiting⟩
      rw [shown, if_pos listed, replaced]

theorem not_isPending_append {part : Part} (settled : ¬IsPending done part)
    (others : List Reference) : ¬IsPending (done ++ others) part := by
  rintro ⟨own, rfl, waiting⟩
  exact settled ⟨own, rfl, fun listed => waiting (List.mem_append_left others listed)⟩

/-- **A step replaces the reference where it was found.** Nothing else is replaced if no
other reference ends in its spelling and it starts nowhere in what is settled. -/
theorem replaceAll_shown (own : reference.IsWellFormed)
    (formed : ∀ other ∈ references parts, other.IsWellFormed)
    (inner : ∀ other ∈ references parts, reference.text <:+ other.text → reference = other)
    (outer : StartsPending environment done reference parts) :
    Text.replaceAll reference.text (reference.replacement environment)
        (parts.flatMap (shown environment done)) =
      parts.flatMap (shown environment (done ++ [reference])) := by
  induction parts with
  | nil => rfl
  | cons part rest ih =>
      have behind := references_subset (List.suffix_cons part rest)
      have later := ih (fun other listed => formed other (behind listed))
        (fun other listed => inner other (behind listed))
        (fun next others ends => outer next others (ends.trans (List.suffix_cons part rest)))
      rw [List.flatMap_cons, List.flatMap_cons]
      by_cases pending : IsPending done part
      · obtain ⟨other, rfl, waiting⟩ := pending
        by_cases same : other = reference
        · subst same
          rw [shown, if_neg waiting, Text.replaceAll_append_self _ (text_ne_nil other), later,
            shown, if_pos (List.mem_append_right done List.mem_cons_self)]
        · have still : other ∉ done ++ [reference] := by simp [waiting, same]
          have listed : other ∈ references (.reference other :: rest) := List.mem_cons_self
          have apart : ∀ ending, ending ≠ [] → ending <:+ other.text →
              ¬reference.text <+: ending ++ rest.flatMap (shown environment done) := by
            intro ending some ends starts
            have whole := eq_of_prefix_of_suffix own (formed other listed) (List.suffix_refl _)
              (text_ne_nil reference) ends some starts
            exact same (inner other listed (whole ▸ ends)).symm
          rw [shown, if_neg waiting, Text.replaceAll_append_of_apart _ apart, later, shown,
            if_neg still]
      · rw [Text.replaceAll_append_of_apart _ (outer part rest (List.suffix_refl _) pending), later,
          shown_of_not_isPending pending,
          shown_of_not_isPending (not_isPending_append pending [reference])]

/-! ## What a step meets -/

/-- The rest of a spelling that stands in the text as it is by now also stands in the text
with all references replaced: it does not cross into a reference that is to come, since this
one would be the end of it. -/
theorem prefix_simultaneous_of_prefix_shown (own : reference.IsWellFormed)
    (formed : ∀ other ∈ references parts, other.IsWellFormed)
    (nested : ∀ other ∈ references parts, other.text <:+ reference.text → other = reference)
    {left : List Char} (ends : left <:+ reference.text) (short : left ≠ reference.text)
    (starts : left <+: parts.flatMap (shown environment done)) :
    left <+: simultaneous environment parts := by
  induction parts generalizing left with
  | nil => exact starts
  | cons part rest ih =>
      have behind := references_subset (List.suffix_cons part rest)
      rw [List.flatMap_cons] at starts
      by_cases pending : IsPending done part
      · obtain ⟨other, rfl, waiting⟩ := pending
        rw [shown, if_neg waiting] at starts
        have listed : other ∈ references (.reference other :: rest) := List.mem_cons_self
        rcases Decidable.em (left = []) with rfl | some
        · exact List.nil_prefix
        · have whole := eq_of_prefix_of_suffix own (formed other listed) ends some
            (List.suffix_refl _) (text_ne_nil other) starts
          subst whole
          exact absurd (congrArg text (nested other listed ends)) short
      · rw [shown_of_not_isPending pending] at starts
        rw [simultaneous, List.flatMap_cons]
        obtain ⟨after, same⟩ := starts
        rcases List.append_eq_append_iff.mp same with ⟨more, inside, -⟩ | ⟨more, split, others⟩
        · rw [inside, List.append_assoc]
          exact List.prefix_append _ _
        · subst split
          have rests : more <:+ reference.text := (List.suffix_append _ more).trans ends
          have shorter : more ≠ reference.text := by
            rintro rfl
            exact short (List.IsSuffix.eq_of_length_le ends (by simp))
          refine (List.prefix_append_right_inj _).mpr (ih ?_ ?_ rests shorter ⟨after, others.symm⟩)
          · exact fun other listed => formed other (behind listed)
          · exact fun other listed => nested other (behind listed)

/-- A spelling that is not in the text with all references replaced starts nowhere in what is
settled. -/
theorem startsPending_of_not_infix (own : reference.IsWellFormed)
    (formed : ∀ other ∈ references parts, other.IsWellFormed)
    (nested : ∀ other ∈ references parts, other.text <:+ reference.text → other = reference)
    (absent : ¬reference.text <:+: simultaneous environment parts) :
    StartsPending environment done reference parts := by
  rintro part rest ends settled ending some closes ⟨after, same⟩
  rw [shown_of_not_isPending settled] at closes
  have behind := references_subset ((List.suffix_cons part rest).trans ends)
  have starts : reference.text <+: ending ++ simultaneous environment rest := by
    rcases List.append_eq_append_iff.mp same with ⟨more, inside, -⟩ | ⟨more, split, others⟩
    · rw [inside, List.append_assoc]
      exact List.prefix_append _ _
    · have short : more ≠ reference.text := by
        intro whole
        rw [whole] at split
        exact some (List.append_left_eq_self.mp split.symm)
      have reaches := prefix_simultaneous_of_prefix_shown own
        (fun other listed => formed other (behind listed))
        (fun other listed => nested other (behind listed))
        (split ▸ List.suffix_append ending more) short ⟨after, others.symm⟩
      rw [split]
      exact (List.prefix_append_right_inj ending).mpr reaches
  obtain ⟨front, whole⟩ := closes
  obtain ⟨before, rfl⟩ := ends
  refine absent (starts.isInfix.trans (List.IsSuffix.isInfix ?_))
  refine ⟨simultaneous environment before ++ front, ?_⟩
  rw [simultaneous, simultaneous, simultaneous, List.flatMap_append, List.flatMap_cons, ← whole]
  simp

/-- At the first step everything but the references is as it was found. -/
theorem startsPending_nil (splits : Splits text parts) (own : reference.IsWellFormed) :
    StartsPending environment [] reference parts := by
  intro part rest ends settled ending some closes
  cases part with
  | reference other => exact absurd ⟨other, rfl, List.not_mem_nil⟩ settled
  | plain c =>
      have whole : ending = [c] := by
        rcases List.suffix_cons_iff.mp closes with whole | none
        · exact whole
        · exact absurd (List.suffix_nil.mp none) some
      rw [whole, shown_nil]
      exact splits.not_prefix_of_suffix ends own

/-! ## A whole run -/

/-- The steps that are left replace the references that are left. -/
theorem foldl_replaceAll_shown {later : List Reference} (splits : Splits text parts)
    (independent : Independent environment parts) (whole : references parts = done ++ later) :
    later.foldl (fun text reference =>
        Text.replaceAll reference.text (reference.replacement environment) text)
      (parts.flatMap (shown environment done)) = simultaneous environment parts := by
  have formed := splits.isWellFormed
  induction later generalizing done with
  | nil =>
      rw [List.append_nil] at whole
      refine congrArg List.flatten (List.map_congr_left fun part listed =>
        shown_of_not_isPending ?_)
      rintro ⟨own, rfl, waiting⟩
      rw [← whole] at waiting
      exact waiting (List.mem_filterMap.mpr ⟨_, listed, rfl⟩)
  | cons reference later ih =>
      have listed : reference ∈ references parts := by
        rw [whole]
        exact List.mem_append_right done List.mem_cons_self
      have own := formed reference listed
      have outer : StartsPending environment done reference parts := by
        cases done with
        | nil => exact startsPending_nil splits own
        | cons first done =>
            have behind : reference ∈ (references parts).tail := by
              rw [whole]
              exact List.mem_append_right done List.mem_cons_self
            exact startsPending_of_not_infix own formed
              (fun other listed' => independent.nested other listed' reference listed)
              (independent.spelled reference behind)
      rw [List.foldl_cons, replaceAll_shown own formed (independent.nested reference listed) outer]
      refine ih ?_
      rw [whole, List.append_assoc, List.singleton_append]

/-- One reference alone is independent. -/
theorem independent_of_length_le_one (alone : (references parts).length ≤ 1) :
    Independent environment parts := by
  cases found : references parts with
  | nil =>
      constructor
      · simp [found]
      · simp [found]
  | cons own others =>
      rw [found, List.length_cons] at alone
      cases List.eq_nil_of_length_eq_zero (Nat.le_zero.mp (Nat.le_of_succ_le_succ alone))
      constructor
      · simp [found]
      · simp [found]

/-- References that nothing else in the text is taken for are independent. -/
theorem independent_of_dollarStarts (formed : ∀ other ∈ references parts, other.IsWellFormed)
    (dollar : DollarStarts environment parts) : Independent environment parts := by
  constructor
  · intro first listed second listed' ends
    refine eq_of_text_eq (formed first listed) (formed second listed') ?_
    -- A spelling that ends another one and is shorter would stand behind its dollar sign.
    rcases List.suffix_cons_iff.mp ends with whole | inside
    · exact whole
    · exact absurd (inside.subset List.mem_cons_self) (dollar.inside second listed')
  · intro reference listed inside
    have held : '$' ∈ simultaneous environment parts := inside.subset List.mem_cons_self
    obtain ⟨part, stands, own⟩ := List.mem_flatMap.mp held
    cases part with
    | plain c =>
        cases List.mem_singleton.mp own
        exact dollar.plain stands
    | reference other =>
        exact dollar.replaced other (List.mem_filterMap.mpr ⟨_, stands, rfl⟩) own

/-- **References are replaced at once, if they are independent.** A text splits in one way
into references and the characters between them, from left to right. Replacing fails exactly
if a reference names a variable that is not set and gives no fallback, with the first such
variable. Otherwise, if the references are independent, every reference is replaced by what
it stands for and every other character stays. So it is if there is no more than one
reference, or if there are no dollar signs but at the start of references. -/
theorem substitute_eq_simultaneous (environment : Environment) (text : String) :
    let parts := partsOf text.toList
    (∀ other, Splits text.toList other ↔ other = parts) ∧
      (∀ failure, substitute environment text = .error failure ↔
        ∃ before reference after, references parts = before ++ reference :: after ∧
          (∀ other ∈ before, (other.meaning? environment).isSome) ∧
          reference.meaning? environment = none ∧
          failure = .variableNotSet (String.ofList reference.name)) ∧
      ((∀ reference ∈ references parts, (reference.meaning? environment).isSome) →
        Independent environment parts →
          substitute environment text = .ok (String.ofList (simultaneous environment parts))) ∧
      ((references parts).length ≤ 1 ∨ DollarStarts environment parts →
        Independent environment parts) := by
  intro parts
  have found : references parts = all text.toList := references_partsOf text.toList
  have splits : Splits text.toList parts := splits_iff.mpr rfl
  refine ⟨fun other => splits_iff, fun failure => ?_, fun known independent => ?_, ?_⟩
  · rw [substitute, map_eq_error_iff, found]
    exact replaceEach_eq_error_iff
  · have replaced := foldl_replaceAll_shown splits independent (List.nil_append _).symm
    rw [shown_nil, splits.flatMap_text] at replaced
    rw [substitute, ← found, replaceEach_eq_ok known, replaced]
    rfl
  · rintro (alone | dollar)
    · exact independent_of_length_le_one alone
    · exact independent_of_dollarStarts splits.isWellFormed dollar

/-- Values and fallbacks may hold whatever spells none of the references. -/
theorem substitute_of_independent :
    let environment : Environment := [("A", "$x"), ("B", "b\x7d")]
    let text := "$\x7bA\x7d/$\x7bB:-c\x7d$\x7bC:-d$\x7d/$\x7bA\x7d$\x7b"
    (∀ reference ∈ references (partsOf text.toList), (reference.meaning? environment).isSome) ∧
      Independent environment (partsOf text.toList) ∧
      substitute environment text = .ok "$x/b\x7dd$/$x$\x7b" := by
  intro environment text
  have known : ∀ reference ∈ references (partsOf text.toList),
      (reference.meaning? environment).isSome := by
    decide +kernel
  have independent : Independent environment (partsOf text.toList) :=
    ⟨by decide +kernel, by decide +kernel⟩
  have whole : String.ofList (simultaneous environment (partsOf text.toList)) =
      "$x/b\x7dd$/$x$\x7b" := by
    decide +kernel
  refine ⟨known, independent, ?_⟩
  rw [← whole]
  exact (substitute_eq_simultaneous environment text).2.2.1 known independent

/-- A value that spells a later reference is expanded, and a reference whose fallback spells
an earlier one is not replaced. -/
theorem substitute_of_dependent :
    let environment : Environment := [("A", "$\x7bB\x7d"), ("B", "x")]
    let value := "$\x7bA\x7d/$\x7bB\x7d"
    let fallback := "$\x7bB\x7d$\x7bC:-$\x7bB\x7d"
    (∀ reference ∈ references (partsOf value.toList) ++ references (partsOf fallback.toList),
      (reference.meaning? environment).isSome) ∧
    (simultaneous environment (partsOf value.toList) = "$\x7bB\x7d/x".toList ∧
      substitute environment value = .ok "x/x") ∧
    simultaneous environment (partsOf fallback.toList) = "x$\x7bB".toList ∧
      substitute environment fallback = .ok "x$\x7bC:-x" := by
  intro environment value fallback
  refine ⟨by decide +kernel, ⟨by decide +kernel, ?_⟩, by decide +kernel, ?_⟩
  · exact toOption_eq_some_iff.mp (by decide +kernel)
  · exact toOption_eq_some_iff.mp (by decide +kernel)

end Reference

end NamedConstants
