import NamedConstants.Json.Reader
import NamedConstants.Kind

/-!
# Regular JSON values

The type of JSON values leaves open what the reader and the writer never meet: an integer beyond
64 bits, a float that is not finite, an object whose keys are out of order or occur twice. The
values without these are the regular ones (`IsRegular`), and those that have no floats either are
exact (`IsExact`). A list of members in the order of their keys is what insertion makes of it
(`foldl_insert`), so a regular object is rebuilt from its own members (`ofMembers_of_isSorted`),
and insertion keeps the order (`IsSorted.insert`).

The depth of a value is the number of containers that are open at once while it is read.
-/

set_option autoImplicit false

namespace NamedConstants.Json

/-! ## Members in order -/

namespace Members

/-- The keys stand in their order, so each of them occurs once. -/
def IsSorted (members : Members) : Prop :=
  members.Pairwise fun first second => first.1 < second.1

instance (members : Members) : Decidable members.IsSorted :=
  inferInstanceAs (Decidable (members.Pairwise fun first second => first.1 < second.1))

theorem IsSorted.nil : IsSorted [] :=
  List.Pairwise.nil

/-- A key above all others is written behind them. -/
theorem insert_greatest {key : String} {members : Members}
    (greatest : ∀ member ∈ members, member.1 < key) (value : Json) :
    members.insert key value = members ++ [(key, value)] := by
  induction members with
  | nil => rfl
  | cons member members ih =>
      obtain ⟨below, others⟩ := List.forall_mem_cons.mp greatest
      have apart : key ≠ member.1 := fun same => String.lt_irrefl _ (same ▸ below)
      rw [insert, if_neg (String.lt_asymm below), if_neg apart, ih others, List.cons_append]

/-- Members in order are inserted one behind the other. -/
theorem foldl_insert (done : Members) {members : Members} (sorted : IsSorted (done ++ members)) :
    members.foldl (fun sorted member => Members.insert member.1 member.2 sorted) done =
      done ++ members := by
  induction members generalizing done with
  | nil => rw [List.foldl_nil, List.append_nil]
  | cons member members ih =>
      have greatest : ∀ earlier ∈ done, earlier.1 < member.1 := fun earlier placed =>
        (List.pairwise_append.mp sorted).2.2 earlier placed member List.mem_cons_self
      have regrouped : done ++ member :: members = done ++ [member] ++ members :=
        List.append_cons done member members
      rw [List.foldl_cons, insert_greatest greatest, regrouped]
      exact ih (done ++ [member]) (regrouped ▸ sorted)

/-- What is true of a member and of the others is true after the member is inserted. -/
theorem forall_mem_insert {holds : String × Json → Prop} {key : String} {value : Json}
    {members : Members} (new : holds (key, value)) (old : ∀ member ∈ members, holds member) :
    ∀ member ∈ members.insert key value, holds member := by
  induction members with
  | nil => exact List.forall_mem_cons.mpr ⟨new, old⟩
  | cons member members ih =>
      obtain ⟨first, others⟩ := List.forall_mem_cons.mp old
      rw [insert]
      split
      · exact List.forall_mem_cons.mpr ⟨new, old⟩
      · split
        · exact List.forall_mem_cons.mpr ⟨new, others⟩
        · exact List.forall_mem_cons.mpr ⟨first, ih others⟩

/-- **Insertion keeps the order of the keys.** -/
theorem IsSorted.insert {members : Members} (sorted : members.IsSorted) (key : String)
    (value : Json) : (members.insert key value).IsSorted := by
  induction members with
  | nil => exact List.pairwise_singleton _ _
  | cons member members ih =>
      obtain ⟨least, others⟩ := List.pairwise_cons.mp sorted
      rw [Members.insert]
      split
      case isTrue below =>
        have least' : ∀ later ∈ member :: members, key < later.1 := List.forall_mem_cons.mpr
          ⟨below, fun later placed => String.lt_trans below (least later placed)⟩
        exact List.pairwise_cons.mpr ⟨least', sorted⟩
      case isFalse notBelow =>
        split
        case isTrue same =>
          subst same
          exact List.pairwise_cons.mpr ⟨least, others⟩
        case isFalse apart =>
          have above : member.1 < key := String.not_le.mp fun atMost =>
            apart (String.le_antisymm atMost (String.not_lt.mp notBelow))
          exact List.pairwise_cons.mpr ⟨forall_mem_insert above least, ih others⟩

end Members

/-- **An object in order is what its members make.** -/
theorem ofMembers_of_isSorted {members : Members} (sorted : members.IsSorted) :
    ofMembers members = .object members := by
  rw [ofMembers, Members.foldl_insert [] sorted, List.nil_append]

/-! ## Regular values -/

/-- The integer has 64 bits, without a sign or with one. -/
def FitsWord (value : Int) : Prop :=
  IntegerKind.uint64.Contains value ∨ IntegerKind.int64.Contains value

instance (value : Int) : Decidable (FitsWord value) :=
  inferInstanceAs (Decidable (_ ∨ _))

/-- The two ranges overlap, so they are one. -/
theorem fitsWord_iff {value : Int} :
    FitsWord value ↔ -(twoTo 63 : Nat) ≤ value ∧ value < (twoTo 64 : Nat) := by
  have double : (twoTo 64 : Nat) = 2 * twoTo 63 := twoTo_succ 63
  have unsigned : IntegerKind.uint64.minimum = 0 ∧
    IntegerKind.uint64.maximum = (twoTo 64 : Nat) - 1 := ⟨rfl, rfl⟩
  have signed : IntegerKind.int64.minimum = -(twoTo 63 : Nat) ∧
    IntegerKind.int64.maximum = (twoTo 63 : Nat) - 1 := ⟨rfl, rfl⟩
  rw [FitsWord, IntegerKind.Contains, IntegerKind.Contains]
  omega

/-- The integers of every kind fit. -/
theorem fitsWord_of_contains {kind : IntegerKind} {value : Int}
    (contained : kind.Contains value) : FitsWord value := by
  have least : -(twoTo 63 : Nat) ≤ kind.minimum := by cases kind <;> decide
  have most : kind.maximum < (twoTo 64 : Nat) := by cases kind <;> decide
  exact fitsWord_iff.mpr
    ⟨Int.le_trans least contained.1, Int.lt_of_le_of_lt contained.2 most⟩

/-- The integers have 64 bits, the floats have a property, and the members of every object stand in
the order of their keys. -/
inductive IsRegularWith (floats : Double → Prop) : Json → Prop
  | null : IsRegularWith floats .null
  | bool (value : Bool) : IsRegularWith floats (.bool value)
  | integer {value : Int} (fits : FitsWord value) : IsRegularWith floats (.integer value)
  | float {x : Double} (allowed : floats x) : IsRegularWith floats (.float x)
  | string (value : String) : IsRegularWith floats (.string value)
  | array {elements : List Json} (each : ∀ value ∈ elements, IsRegularWith floats value) :
      IsRegularWith floats (.array elements)
  | object {members : Members} (sorted : members.IsSorted)
      (each : ∀ member ∈ members, IsRegularWith floats member.2) :
      IsRegularWith floats (.object members)

/-- The value is a JSON value as it is read and written: its floats are finite. -/
def IsRegular : Json → Prop :=
  IsRegularWith fun x => x.isFinite = true

/-- The value is regular and all its numbers are integers. -/
def IsExact : Json → Prop :=
  IsRegularWith fun _ => False

section Members

variable {floats : Double → Prop} {members : Members}

/-- An object stays regular when a member is written. -/
theorem IsRegularWith.insert (regular : (Json.object members).IsRegularWith floats) (key : String)
    {value : Json} (new : value.IsRegularWith floats) :
    (Json.object (members.insert key value)).IsRegularWith floats := by
  cases regular with
  | object sorted each =>
      have each' : ∀ member ∈ members.insert key value, member.2.IsRegularWith floats :=
        Members.forall_mem_insert new each
      exact .object (sorted.insert key value) each'

theorem IsRegularWith.foldl_insert {done : Members}
    (regular : (Json.object done).IsRegularWith floats)
    (each : ∀ member ∈ members, member.2.IsRegularWith floats) :
    (Json.object (members.foldl
      (fun sorted member => Members.insert member.1 member.2 sorted) done)).IsRegularWith floats := by
  induction members generalizing done with
  | nil => exact regular
  | cons member members ih =>
      obtain ⟨first, others⟩ := List.forall_mem_cons.mp each
      exact ih (regular.insert member.1 first) others

/-- **What members make is regular if they are, in whatever order they come.** -/
theorem isRegularWith_ofMembers (each : ∀ member ∈ members, member.2.IsRegularWith floats) :
    (ofMembers members).IsRegularWith floats :=
  IsRegularWith.foldl_insert (.object .nil (List.forall_mem_nil _)) each

end Members

/-! ## Depth -/

mutual

/-- The number of containers around the innermost value. -/
def depth : Json → Nat
  | .array elements => elementsDepth elements + 1
  | .object members => membersDepth members + 1
  | _ => 0

/-- The depth of the deepest element. -/
def elementsDepth : List Json → Nat
  | [] => 0
  | value :: rest => max value.depth (elementsDepth rest)

/-- The depth of the deepest member. -/
def membersDepth : List (String × Json) → Nat
  | [] => 0
  | (_, value) :: rest => max value.depth (membersDepth rest)

end

end NamedConstants.Json
