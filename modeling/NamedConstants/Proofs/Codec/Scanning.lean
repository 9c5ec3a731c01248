import NamedConstants.Codec.Driver
import NamedConstants.Proofs.Family.Resolution

/-!
# Values scanned into an instance that is kept

A driver hands over one value after the other, and each is scanned into the same
instance. Null leaves the instance as it is. Any other value leads to a member
or to a failure, and to which of them depends on the value alone (`memberOf`),
although the raw scalar is scanned over the one that the instance has
(`readCandidate_of_present`). A member takes the place of the instance, and a
failure leaves it (`scanInto_of_present`).

So the calls of a run answer each for itself, and the run leaves the member of
the last value that led to one (`scanEach_eq_last_member`).
-/

set_option autoImplicit false

namespace NamedConstants.Codec.Driver

variable {kind : Kind}

/-! ## What a value leads to -/

/-- What a value points to, whatever it is scanned over. -/
def candidateOf (family : Family kind) (source : RawValue) : Result (Candidate kind) :=
  match family.representation with
  | .byName => do
    match ← coerce source .string with
    | .string name => return .name name
  | .byValue => Candidate.value <$> coerce source kind

/-- The member that a value leads to, or why it leads to none. -/
def memberOf (family : Family kind) (source : RawValue) : Result (Scalar kind) := do
  family.resolve (← candidateOf family source) source.toText

/-- What the call for a value answers. -/
def answer (family : Family kind) (source : RawValue) : Result Unit :=
  if source.isNull then .ok () else (memberOf family source).map fun _ => ()

/-- The member that the call for a value leaves in the instance. -/
def accepted? (family : Family kind) (source : RawValue) : Option (Scalar kind) :=
  if source.isNull then none else (memberOf family source).toOption

theorem mem_all_of_memberOf {family : Family kind} {source : RawValue} {member : Scalar kind}
    (led : memberOf family source = .ok member) : member ∈ family.all := by
  unfold memberOf at led
  cases read : candidateOf family source with
  | error failure =>
      rw [read] at led
      cases led
  | ok candidate =>
      rw [read] at led
      exact Family.mem_all_of_resolve led

/-! ## One call -/

/-- What is scanned over makes no difference. -/
theorem readCandidate_of_present (family : Family kind) (target : Scalar kind) {source : RawValue}
    (present : source.isNull = false) :
    readCandidate family target source = candidateOf family source := by
  unfold readCandidate candidateOf
  cases family.representation with
  | byName =>
      dsimp only
      rewrite [scan_of_present present]
      rfl
  | byValue =>
      dsimp only
      rw [scan_of_present present]

theorem scanInto_of_isNull (family : Family kind) (target : Scalar kind) {source : RawValue}
    (absent : source.isNull = true) : scanInto family target source = (.ok (), target) := by
  rw [scanInto, scan, if_pos absent]

/-- A value leads to its member from every instance, and a failure leaves the
instance. -/
theorem scanInto_of_present (family : Family kind) (target : Scalar kind) {source : RawValue}
    (present : source.isNull = false) :
    scanInto family target source =
      match memberOf family source with
      | .ok member => (.ok (), member)
      | .error failure => (.error failure, target) := by
  have led : scan family target source = memberOf family source := by
    rw [scan, present, if_neg Bool.false_ne_true, readCandidate_of_present family target present,
      memberOf]
  rewrite [scanInto, led]
  cases memberOf family source with
  | error failure => rfl
  | ok member => rfl

/-- One call in terms of what its value leads to. -/
theorem scanInto_eq (family : Family kind) (target : Scalar kind) (source : RawValue) :
    scanInto family target source =
      (answer family source, (accepted? family source).getD target) := by
  cases absent : source.isNull with
  | true => rw [scanInto_of_isNull family target absent, answer, accepted?, absent]; rfl
  | false =>
      rw [scanInto_of_present family target absent, answer, accepted?, absent]
      cases memberOf family source with
      | error failure => rfl
      | ok member => rfl

theorem snd_scanInto_of_error {family : Family kind} {target : Scalar kind} {source : RawValue}
    {failure : Failure} (failed : (scanInto family target source).1 = .error failure) :
    (scanInto family target source).2 = target := by
  unfold scanInto at failed ⊢
  cases outcome : scan family target source with
  | error reason => rfl
  | ok next =>
      rw [outcome] at failed
      cases failed

/-! ## A run of calls -/

/-- A run answers call by call and leaves the member that came last. -/
theorem scanEach_eq (family : Family kind) (target : Scalar kind) (sources : List RawValue) :
    scanEach family target sources =
      (sources.map (answer family),
        (sources.filterMap (accepted? family)).getLast?.getD target) := by
  -- The instance that one call leaves is the one that the rest of the run starts with.
  induction sources generalizing target with
  | nil => rfl
  | cons source sources ih =>
      rw [scanEach, scanInto_eq]
      dsimp only
      rw [ih, List.map_cons]
      cases accepted : accepted? family source with
      | none => rw [List.filterMap_cons_none accepted, Option.getD_none]
      | some member =>
          rw [List.filterMap_cons_some accepted, List.getLast?_cons, Option.getD_some,
            Option.getD_some]

/-- **A run of scans leaves the member of the last value that led to one.** Null
and failures leave the instance; a member takes its place whatever it was, and is
declared; and what a call answers does not depend on the instance either. -/
theorem scanEach_eq_last_member (family : Family kind) (target : Scalar kind)
    (sources : List RawValue) :
    (∀ initial : Scalar kind, scanInto family initial .null = (.ok (), initial)) ∧
      (∀ (initial : Scalar kind) (source : RawValue) (failure : Failure),
        (scanInto family initial source).1 = .error failure →
          (scanInto family initial source).2 = initial) ∧
      (∀ source : RawValue, source.isNull = false →
        match memberOf family source with
        | .ok member => member ∈ family.all ∧
            ∀ initial : Scalar kind, scanInto family initial source = (.ok (), member)
        | .error failure =>
            ∀ initial : Scalar kind, scanInto family initial source = (.error failure, initial)) ∧
      scanEach family target sources =
        (sources.map (answer family),
          (sources.filterMap (accepted? family)).getLast?.getD target) := by
  refine ⟨fun initial => rfl, fun initial source failure failed => snd_scanInto_of_error failed,
    fun source present => ?_, scanEach_eq family target sources⟩
  cases led : memberOf family source with
  | error failure =>
      intro initial
      rw [scanInto_of_present family initial present, led]
  | ok member =>
      refine ⟨mem_all_of_memberOf led, fun initial => ?_⟩
      rw [scanInto_of_present family initial present, led]

end NamedConstants.Codec.Driver
