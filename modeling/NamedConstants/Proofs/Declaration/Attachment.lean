import NamedConstants.Proofs.Declaration.Directive
import NamedConstants.Proofs.Declaration.Target

/-!
# Attachment of constants

A scan goes through the aliases first and then hands each constant to the first
family of its type. The same result is reached alias by alias (`holdings`): each
alias of a recognized type takes all constants of its name, unless an alias of a
recognized type in front of it has the same name (`foldl_attach_eq`). So every
constant with a literal of such a type is taken exactly once (`perm_held`).
-/

set_option autoImplicit false

namespace NamedConstants

open Source (Item Alias ConstantItem TypeForm ValueForm)

namespace Scan

/-! ## Aliases and constants -/

/-- The aliases among the items. -/
def aliases (items : List Item) : List Alias :=
  items.filterMap fun
    | .alias item => some item
    | _ => none

/-- The constants among the items. -/
def constants (items : List Item) : List ConstantItem :=
  items.filterMap fun
    | .constant item => some item
    | _ => none

theorem mem_aliases {items : List Item} {item : Alias} :
    item ∈ aliases items ↔ .alias item ∈ items := by
  rw [aliases, List.mem_filterMap]
  constructor
  · rintro ⟨own | own | -, listed, same⟩
    · cases same
      exact listed
    · cases same
    · cases same
  · exact fun listed => ⟨_, listed, rfl⟩

/-- The value is a literal that a constant can have, in parentheses or with minus
signs in front. -/
def isLiteral : ValueForm → Bool
  | .literal .other => false
  | .literal _ => true
  | .boolean _ => true
  | .negation operand => isLiteral operand
  | .enclosed inner => isLiteral inner
  | .other => false

theorem isSome_text? (value : ValueForm) : value.text?.isSome = isLiteral value := by
  induction value with
  | literal own => cases own <;> rfl
  | boolean own => rfl
  | negation operand ih => rw [ValueForm.text?, Option.isSome_map, ih, isLiteral]
  | enclosed inner ih => exact ih
  | other => rfl

/-- The member that a constant is. -/
def memberOf (item : ConstantItem) : Constant :=
  let doc := MemberDoc.ofLines (docLines item.docs)
  ⟨item.ident, item.value.text?.getD "", doc.aliases, doc.isValid, doc.comment⟩

/-- The members of a type: the constants of exactly that type with a literal as
their value, in order. -/
def membersOf (items : List Item) (typeName : String) : List Constant :=
  ((constants items).filter fun item =>
    item.type = .name typeName ∧ isLiteral item.value = true).map memberOf

theorem member?_eq_some_iff {item : ConstantItem} {typeName : String} {member : Constant} :
    member? item = some (typeName, member) ↔
      (item.type = .name typeName ∧ isLiteral item.value = true) ∧ memberOf item = member := by
  rw [← isSome_text?, memberOf]
  unfold member?
  split
  · rename_i own literal type value
    rw [type, value]
    simp
  · rename_i unlike
    constructor
    · intro none
      cases none
    · rintro ⟨⟨type, value⟩, -⟩
      obtain ⟨literal, value⟩ := Option.isSome_iff_exists.mp value
      exact absurd value (unlike typeName literal type)

theorem members_eq (items : List Item) : members items = (constants items).filterMap member? := by
  rw [members, constants, List.filterMap_filterMap]
  congr 1
  funext item
  cases item <;> rfl

theorem membersOf_eq (items : List Item) (typeName : String) :
    ((members items).filter fun member => member.1 == typeName).map Prod.snd =
      membersOf items typeName := by
  rw [members_eq, membersOf]
  induction constants items with
  | nil => rfl
  | cons item others ih =>
      rw [List.filterMap_cons]
      by_cases own : item.type = .name typeName ∧ isLiteral item.value = true
      · rw [member?_eq_some_iff.mpr ⟨own, rfl⟩]
        simp [own, ih]
      · cases found : member? item with
        | none => simp [own, ih]
        | some member =>
            have foreign : member.1 ≠ typeName := by
              rintro rfl
              exact own (member?_eq_some_iff.mp found).1
            simp [own, foreign, ih]

/-! ## Holdings -/

/-- An alias of a recognized type with the members it takes. -/
structure Holding where
  item : Alias
  type : ScalarType
  members : List Constant

/-- The aliases of recognized types with their members, where aliases of the given
names stand in front. Of several aliases of one name the first takes all. -/
def holdings (items : List Item) : List String → List Alias → List Holding
  | _, [] => []
  | names, item :: rest =>
    match recognized? item.target with
    | some type =>
      ⟨item, type, if names.contains item.ident then [] else membersOf items item.ident⟩ ::
        holdings items (item.ident :: names) rest
    | none => holdings items names rest

/-- The flags of the last directive of an alias. -/
def lastFlags? (item : Alias) : Option (List String) :=
  ((docLines item.docs).filterMap Options.flags?).getLast?

/-- A directive asks for the family of the alias. -/
def isAnnotated (item : Alias) : Bool :=
  (lastFlags? item).isSome

/-- The family that an alias declares. -/
def Holding.declaration (configuration : Configuration) (holding : Holding) : Declaration where
  typeName := holding.item.ident
  underlying := holding.item.target.text?.getD ""
  kind := holding.type.kind
  stored := holding.type.stored
  members := holding.members
  options := ((lastFlags? holding.item).map (Options.ofFlags holding.item.ident)).getD
    (configuration.optionsOf holding.item.ident)

/-- The family that is scanned for an alias. -/
def Holding.family (configuration : Configuration) (holding : Holding) : OpenFamily :=
  ⟨holding.declaration configuration, isAnnotated holding.item⟩

/-! ## Handing out -/

section HandingOut

variable {configuration : Configuration} {items : List Item}

/-- The family with more members. -/
def extended (family : OpenFamily) (more : List Constant) : OpenFamily :=
  { family with declaration :=
    { family.declaration with members := family.declaration.members ++ more } }

theorem extended_nil (family : OpenFamily) : extended family [] = family := by
  rw [extended, List.append_nil]

theorem extended_extended (family : OpenFamily) (first second : List Constant) :
    extended (extended family first) second = extended family (first ++ second) := by
  simp only [extended, List.append_assoc]

/-- The first family takes the members of its type and leaves the others to the
families behind it. -/
theorem foldl_attach_cons (given : List (String × Constant)) (family : OpenFamily)
    (others : List OpenFamily) :
    given.foldl attach (family :: others) =
      extended family
          ((given.filter fun member => member.1 == family.declaration.typeName).map Prod.snd) ::
        (given.filter fun member => member.1 != family.declaration.typeName).foldl attach others := by
  induction given generalizing family others with
  | nil => exact congrArg (· :: others) (extended_nil family).symm
  | cons member given ih =>
      rw [List.foldl_cons, attach]
      by_cases own : member.1 = family.declaration.typeName
      · have taken : attach (family :: others) member = extended family [member.2] :: others := by
          rw [attach, if_pos (beq_iff_eq.mpr own.symm)]
          rfl
        have kept : (extended family [member.2]).declaration.typeName =
            family.declaration.typeName := rfl
        rw [← attach, taken, ih, kept, extended_extended]
        simp [own]
      · have left : attach (family :: others) member = family :: attach others member := by
          rw [attach, if_neg fun same => own (beq_iff_eq.mp same).symm]
        rw [← attach, left, ih]
        simp [own]

theorem foldl_attach_nil (given : List (String × Constant)) : given.foldl attach [] = [] := by
  induction given with
  | nil => rfl
  | cons member given ih => exact ih

/-- The members of other types than the given ones. -/
def remaining (items : List Item) (names : List String) : List (String × Constant) :=
  (members items).filter fun member => !names.contains member.1

theorem filter_remaining_ne (names : List String) (ident : String) :
    (remaining items names).filter (fun member => member.1 != ident) =
      remaining items (ident :: names) := by
  rw [remaining, remaining, List.filter_filter]
  refine List.filter_congr fun member _ => ?_
  rw [List.contains_cons, Bool.not_or]
  rfl

theorem filter_remaining_eq (names : List String) (ident : String) :
    ((remaining items names).filter fun member => member.1 == ident).map Prod.snd =
      if names.contains ident then [] else membersOf items ident := by
  rw [remaining, ← membersOf_eq, List.filter_filter]
  split
  · rename_i listed
    rw [List.filter_eq_nil_iff.mpr, List.map_nil]
    intro member _ own
    obtain ⟨same, new⟩ := Bool.and_eq_true_iff.mp own
    rw [beq_iff_eq.mp same, listed] at new
    cases new
  · rename_i new
    refine congrArg _ (List.filter_congr fun member _ => ?_)
    by_cases same : member.1 = ident
    · simpa [same] using new
    · simp [same]

/-- **Handing out the members one by one gives each alias what it takes.** -/
theorem foldl_attach_eq (names : List String) (rest : List Alias) :
    (remaining items names).foldl attach
        (rest.filterMap fun item => (recognized? item.target).map fun type =>
          Holding.family configuration ⟨item, type, []⟩) =
      (holdings items names rest).map (Holding.family configuration) := by
  induction rest generalizing names with
  | nil => exact foldl_attach_nil _
  | cons item rest ih =>
      rw [List.filterMap_cons, holdings]
      cases recognized? item.target with
      | none => exact ih names
      | some type =>
          have named : (Holding.family configuration ⟨item, type, []⟩).declaration.typeName =
              item.ident := rfl
          simp only [Option.map_some]
          rw [foldl_attach_cons, named, filter_remaining_ne, filter_remaining_eq, ih, List.map_cons]
          rfl

/-- The members with their types as they are held. -/
def held (items : List Item) (names : List String) (rest : List Alias) : List (String × Constant) :=
  (holdings items names rest).flatMap fun holding =>
    holding.members.map fun member => (holding.item.ident, member)

/-- The names of the aliases of recognized types. -/
def recognizedNames (rest : List Alias) : List String :=
  (rest.filter fun item => (recognized? item.target).isSome).map (·.ident)

/-- **Every member of a recognized type is held exactly once.** -/
theorem perm_held (names : List String) (rest : List Alias) :
    (held items names rest).Perm
      ((remaining items names).filter fun member => (recognizedNames rest).contains member.1) := by
  induction rest generalizing names with
  | nil => simp [held, holdings, recognizedNames]
  | cons item rest ih =>
      cases meant : recognized? item.target with
      | none =>
          have skipped : held items names (item :: rest) = held items names rest := by
            rw [held, holdings, meant]
            rfl
          have others : recognizedNames (item :: rest) = recognizedNames rest := by
            simp [recognizedNames, meant]
          rw [skipped, others]
          exact ih names
      | some type =>
          have own : (if names.contains item.ident then [] else membersOf items item.ident).map
              (fun member => (item.ident, member)) =
                (remaining items names).filter fun member => member.1 == item.ident := by
            rw [← filter_remaining_eq, List.map_map]
            refine (List.map_congr_left fun member listed => ?_).trans (List.map_id _)
            exact Prod.ext (beq_iff_eq.mp (List.mem_filter.mp listed).2).symm rfl
          have taken : held items names (item :: rest) =
              ((remaining items names).filter fun member => member.1 == item.ident) ++
                held items (item.ident :: names) rest := by
            rw [held, holdings, meant, List.flatMap_cons, own]
            rfl
          have others : recognizedNames (item :: rest) = item.ident :: recognizedNames rest := by
            simp [recognizedNames, meant]
          rw [taken, others]
          refine ((ih (item.ident :: names)).append_left _).trans ?_
          rw [← filter_remaining_ne]
          -- What is listed splits into the members of this type and those of later ones.
          have split := List.filter_append_perm (fun member => member.1 == item.ident)
            ((remaining items names).filter fun member =>
              (item.ident :: recognizedNames rest).contains member.1)
          simp only [List.filter_filter, List.contains_cons] at split ⊢
          refine (List.Perm.of_eq ?_).trans split
          congr 1
          · refine List.filter_congr fun member _ => ?_
            cases member.1 == item.ident <;> rfl
          · refine List.filter_congr fun member _ => ?_
            cases same : member.1 == item.ident <;> simp [bne, same]

end HandingOut

end Scan

end NamedConstants
