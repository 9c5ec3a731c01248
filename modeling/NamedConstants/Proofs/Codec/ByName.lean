import NamedConstants.Proofs.Codec.RoundTrip
import NamedConstants.Proofs.Family.Resolution

/-!
# Families that travel by name

Every instance comes back from each of the five encodings as what its name
resolves to (`roundTrip_eq_resolve_name`). The name is that of the first member
that shares its key, and it resolves to the first member that answers to it: the
two agree unless a member declared earlier answers to the name as well
(`scanForName?_name`).

A member that is merely equal to the instance does not count. The two zeros are
equal as structured values and have different keys, so each has a name of its own
(`roundTrip_of_structuredZero`).
-/

set_option autoImplicit false

namespace NamedConstants

variable {kind : Kind}

/-! ## Which member answers to a canonical name -/

theorem scanForName?_of_scanForKey? {insensitive : Bool} {members : List (Member kind)}
    {name : String} {member : Member kind}
    (found : scanForKey? insensitive members name = some member) :
    scanForName? insensitive members name = some member := by
  rw [scanForName?_eq_or, found, Option.some_or]

/-- The canonical name of a member leads to a member declared earlier that has it
as a key, or else to the member itself. -/
theorem scanForName?_name (insensitive : Bool) (before after : List (Member kind))
    (own : Member kind) :
    ∃ found, scanForName? insensitive (before ++ own :: after) own.name = some found ∧
      (found ∈ before ∧ own.name ∈ found.keys insensitive ∨
        found = own ∧ ∀ member ∈ before, own.name ∉ member.keys insensitive) := by
  have self : own.name ∈ own.keys insensitive :=
    own.names_subset_keys insensitive List.mem_cons_self
  cases earlier : scanForKey? insensitive before own.name with
  | some found =>
      refine ⟨found, scanForName?_of_scanForKey? ?_, Or.inl (scanForKey?_eq_some earlier)⟩
      rw [scanForKey?, List.find?_append, ← scanForKey?, earlier, Option.some_or]
  | none =>
      refine ⟨own, scanForName?_of_scanForKey? ?_, Or.inr ⟨rfl, ?_⟩⟩
      · rw [scanForKey?, List.find?_append, ← scanForKey?, earlier, Option.none_or,
          List.find?_cons, List.contains_iff_mem.mpr self]
      · intro member listed filed
        have found := scanForKey?_isSome listed filed
        rw [earlier] at found
        cases found

/-- A registered raw scalar has a first member. -/
theorem exists_first {members : List (Member kind)} {raw : Scalar kind} {declared : Member kind}
    (listed : declared ∈ members) (has : declared.raw.sharesKey raw = true) :
    ∃ before own after, members = before ++ own :: after ∧ own.raw.sharesKey raw = true ∧
      (∀ member ∈ before, member.raw.sharesKey raw = false) ∧
      firstSharing? members raw = some own := by
  have registered : (firstSharing? members raw).isSome = true :=
    List.find?_isSome.mpr ⟨declared, listed, has⟩
  obtain ⟨own, found⟩ := Option.isSome_iff_exists.mp registered
  obtain ⟨has, before, after, split, first⟩ := List.find?_eq_some_iff_append.mp found
  exact ⟨before, own, after, split, has,
    fun member earlier => Bool.not_eq_true' _ ▸ first member earlier, found⟩

/-- The canonical name of the first member with the key of a raw scalar leads back to
it, or to one declared earlier that has another key. -/
theorem resolve_name_sharesKey_iff (typeName source : String) (representation : Representation)
    (insensitive : Bool) (before after : List (Member kind)) {own : Member kind}
    {raw : Scalar kind} (has : own.raw.sharesKey raw = true)
    (first : ∀ member ∈ before, member.raw.sharesKey raw = false) :
    (∃ read, (Family.ofMembers typeName representation insensitive
        (before ++ own :: after)).resolve (.name own.name) source = .ok read ∧
          read.sharesKey raw = true) ↔
      ∀ member ∈ before, own.name ∉ member.keys insensitive := by
  obtain ⟨answer, answers, which⟩ := scanForName?_name insensitive before after own
  rw [Family.resolve_name_ofMembers, answers]
  rcases which with ⟨earlier, filed⟩ | ⟨rfl, alone⟩
  · constructor
    · rintro ⟨read, same, shared⟩
      rw [← Except.ok.inj same, first answer earlier] at shared
      cases shared
    · intro alone
      exact absurd filed (alone answer earlier)
  · exact ⟨fun _ => alone, fun _ => ⟨_, rfl, has⟩⟩

/-! ## Round trips -/

/-- **Each codec gives back what the name resolves to**, so all of them find the
same member. If the instance shares its key with a member, the one that is found
shares it exactly when no member declared before the first that does answers to
the canonical name of this first one. An instance that shares its key with no
member travels under a name made of its type and its text, and comes back as an
unknown constant exactly when no member answers to this name. Constants share a
key exactly if they are equal, points in time and structured values exactly if
they have the same text. -/
theorem roundTrip_eq_resolve_name (typeName : String) (insensitive : Bool)
    (members : List (Member kind)) (raw target : Scalar kind) :
    let family := Family.ofMembers typeName .byName insensitive members
    (∀ encoding : Encoding, encoding.roundTrip family raw target =
      family.resolve (.name (family.nameOf raw)) (encoding.reportedName (family.nameOf raw))) ∧
    (∀ encoding : Encoding, (encoding.roundTrip family raw target).toOption =
      family.findByName? (family.nameOf raw)) ∧
    (∀ declared ∈ members, declared.raw.sharesKey raw = true →
      ∃ before own after, members = before ++ own :: after ∧ own.raw.sharesKey raw = true ∧
        (∀ member ∈ before, member.raw.sharesKey raw = false) ∧ family.nameOf raw = own.name ∧
        ∀ encoding : Encoding,
          (∃ read, encoding.roundTrip family raw target = .ok read ∧
              read.sharesKey raw = true) ↔
            ∀ member ∈ before, own.name ∉ member.keys insensitive) ∧
    ((∀ member ∈ members, member.raw.sharesKey raw = false) →
      family.nameOf raw = lowercase typeName ++ "(" ++ raw.toText ++ ")" ∧
        ∀ encoding : Encoding,
          encoding.roundTrip family raw target =
              .error (.unknownConstant (encoding.reportedName (family.nameOf raw))) ↔
            family.findByName? (family.nameOf raw) = none) ∧
    (kind.isConstant = true → ∀ x y : Scalar kind, x.sharesKey y = x.equal y) ∧
    (∀ x y : Timestamp, (Scalar.timestamp x).sharesKey (.timestamp y) = true ↔
      x.toText = y.toText) ∧
    ∀ x y : Json, (Scalar.structured x).sharesKey (.structured y) = true ↔ x.write = y.write := by
  intro family
  have trip : ∀ encoding : Encoding, encoding.roundTrip family raw target =
      family.resolve (.name (family.nameOf raw)) (encoding.reportedName (family.nameOf raw)) :=
    fun encoding => encoding.roundTrip_of_byName rfl raw target
  refine ⟨trip, ?_, ?_, ?_, Scalar.sharesKey_eq_equal,
    fun x y => Scalar.sharesKey_timestamp_iff.trans Timestamp.toText_eq_iff.symm,
    fun x y => Scalar.sharesKey_structured_iff⟩
  · intro encoding
    rw [trip, Family.toOption_resolve, Family.find?]
  · intro declared listed has
    obtain ⟨before, own, after, rfl, has, first, found⟩ := exists_first listed has
    have name : family.nameOf raw = own.name := by
      rw [Family.nameOf_ofMembers, found]
    refine ⟨before, own, after, rfl, has, first, name, fun encoding => ?_⟩
    rw [trip, name]
    exact resolve_name_sharesKey_iff typeName _ .byName insensitive before after has first
  · intro unregistered
    have missed : firstSharing? members raw = none :=
      List.find?_eq_none.mpr fun member listed => Bool.eq_false_iff.mp (unregistered member listed)
    refine ⟨by rw [Family.nameOf_ofMembers, missed], fun encoding => ?_⟩
    rw [trip, Family.resolve_eq_unknownConstant_iff, Family.find?]

/-! ## Equal values with different keys -/

/-- The two zeros as structured values, behind a member that has the name of the
second as an alias. -/
def zeroMembers : List (Member .structured) :=
  [⟨.structured (.integer 5), "Five", ["Plus"], true⟩,
    ⟨.structured (.float (.zero true)), "Minus", [], true⟩,
    ⟨.structured (.float (.zero false)), "Plus", [], true⟩]

/-- **Zero travels under the name of a later member than the first that equals it.**
The first member that equals zero is the negative one, and no member declared before
it answers to its name. Still zero comes back as another value from every encoding,
since its own name is an alias of that value. -/
theorem roundTrip_of_structuredZero :
    let zero : Scalar .structured := .structured (.float (.zero false))
    let five : Scalar .structured := .structured (.integer 5)
    let minus : Member .structured := ⟨.structured (.float (.zero true)), "Minus", [], true⟩
    let family := Family.ofMembers "Sign" .byName false zeroMembers
    scanForRaw? zeroMembers zero = some minus ∧
      (∀ member ∈ zeroMembers.takeWhile fun member => !member.raw.equal zero,
        minus.name ∉ member.keys false) ∧
      family.nameOf zero = "Plus" ∧
      (∀ encoding : Encoding, encoding.roundTrip family zero (.default _) = .ok five) ∧
      five.equal zero = false := by
  intro zero five minus family
  have name : family.nameOf zero = "Plus" := by
    have found : firstSharing? zeroMembers zero = some ⟨zero, "Plus", [], true⟩ := by
      rfl
    rw [Family.nameOf_ofMembers, found]
  refine ⟨rfl, by decide, name, fun encoding => ?_, rfl⟩
  rw [encoding.roundTrip_of_byName rfl, name, Family.resolve_name_ofMembers]
  rfl

end NamedConstants
