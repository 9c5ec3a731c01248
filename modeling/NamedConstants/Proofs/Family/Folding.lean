import NamedConstants.Proofs.Family.Lookup

/-!
# Ignoring case

A table that ignores case files every name a second time, in lower case, and of
two members with the same key the first declared one is found. So it finds every
name that the same table finds with case (`findByName?_insensitive`): the same
member, unless a member declared earlier has a name whose lower case is the one
asked for. Only a name in lower case can be taken over in this way, and it is
(`lowercase_name_taken_over`).
-/

set_option autoImplicit false

namespace NamedConstants

variable {kind : Kind}

namespace Member

/-- One of the names of a member has the given lower case. -/
def foldsTo (member : Member kind) (text : String) : Bool :=
  member.names.any fun name => lowercase name == text

theorem foldsTo_iff {member : Member kind} {text : String} :
    member.foldsTo text = true ↔ ∃ name ∈ member.names, lowercase name = text := by
  simp only [foldsTo, List.any_eq_true, beq_iff_eq]

/-- The keys of a member where case is ignored are its names and their lower
cases. -/
theorem contains_keys_insensitive (member : Member kind) (text : String) :
    (member.keys true).contains text = (member.names.contains text || member.foldsTo text) := by
  rw [Bool.eq_iff_iff, Bool.or_eq_true, List.contains_iff_mem, List.contains_iff_mem,
    mem_keys_insensitive, foldsTo_iff]
  constructor
  · rintro ⟨name, declared, rfl | rfl⟩
    · exact Or.inl declared
    · exact Or.inr ⟨name, declared, rfl⟩
  · rintro (declared | ⟨name, declared, rfl⟩)
    · exact ⟨text, declared, Or.inl rfl⟩
    · exact ⟨name, declared, Or.inr rfl⟩

/-- Only a text in lower case is the lower case of a name. -/
theorem foldsTo_eq_false {member : Member kind} {text : String} (cased : lowercase text ≠ text) :
    member.foldsTo text = false := by
  rw [Bool.eq_false_iff]
  intro folds
  obtain ⟨name, -, rfl⟩ := foldsTo_iff.mp folds
  exact cased (lowercase_lowercase name)

end Member

/-- A walk that stops at a member when only its names count stops there or
earlier when their lower cases count as well. -/
theorem scanForKey?_insensitive {before after : List (Member kind)} {own : Member kind}
    {name : String} (declared : name ∈ own.names)
    (first : ∀ member ∈ before, name ∉ member.names) :
    scanForKey? true (before ++ own :: after) name =
      some ((before.find? fun member => member.foldsTo name).getD own) := by
  have earlier : before.find? (fun member => (member.keys true).contains name) =
      before.find? fun member => member.foldsTo name := by
    clear declared
    induction before with
    | nil => rfl
    | cons member before ih =>
        have other : member.names.contains name = false :=
          Bool.eq_false_iff.mpr fun same =>
            first member List.mem_cons_self (List.contains_iff_mem.mp same)
        rw [List.find?_cons, List.find?_cons, member.contains_keys_insensitive, other, Bool.false_or,
          ih fun member listed => first member (List.mem_cons_of_mem _ listed)]
  have found : (own.keys true).contains name = true :=
    List.contains_iff_mem.mpr (own.names_subset_keys true declared)
  rw [scanForKey?, List.find?_append, earlier, List.find?_cons, found]
  cases before.find? fun member => member.foldsTo name with
  | none => rfl
  | some member => rfl

namespace Table

theorem findByName?_eq_scanForName? (insensitive : Bool) (members : List (Member kind))
    (name : String) :
    (ofMembers insensitive members).findByName? name = scanForName? insensitive members name := by
  rw [(filed_ofMembers insensitive members).findByName?_eq, insensitive_ofMembers,
    members_ofMembers]

/-- **Ignoring case never loses a match.** A name that is found with case is
found without it as well: at the same member, unless members declared earlier
have the name as a lower case, and then at the first of these. A name that is not
in lower case keeps its member. -/
theorem findByName?_insensitive {members : List (Member kind)} {name : String}
    {member : Member kind} (found : (ofMembers false members).findByName? name = some member) :
    ∃ before after, members = before ++ member :: after ∧ name ∈ member.names ∧
      (∀ earlier ∈ before, name ∉ earlier.names) ∧
      (ofMembers true members).findByName? name =
        some ((before.find? fun earlier => earlier.foldsTo name).getD member) ∧
      ((∀ earlier ∈ before, ∀ key ∈ earlier.names, lowercase key ≠ name) →
        (ofMembers true members).findByName? name = some member) ∧
      (lowercase name ≠ name → (ofMembers true members).findByName? name = some member) := by
  rw [findByName?_eq_scanForName?, scanForName?_eq_or, if_neg Bool.false_ne_true, Option.or_none,
    scanForKey?] at found
  obtain ⟨holds, before, after, split, missed⟩ := List.find?_eq_some_iff_append.mp found
  have declared : name ∈ member.names := by
    rwa [Member.keys_sensitive, List.contains_iff_mem] at holds
  have first : ∀ earlier ∈ before, name ∉ earlier.names := by
    intro earlier listed declared
    have other := missed earlier listed
    rw [Member.keys_sensitive, List.contains_iff_mem.mpr declared] at other
    cases other
  have answer : (ofMembers true members).findByName? name =
      some ((before.find? fun earlier => earlier.foldsTo name).getD member) := by
    rw [findByName?_eq_scanForName?, scanForName?_eq_or, split,
      scanForKey?_insensitive declared first, Option.some_or]
  have kept : (∀ earlier ∈ before, earlier.foldsTo name = false) →
      (ofMembers true members).findByName? name = some member := by
    intro free
    rw [answer, List.find?_eq_none.mpr fun earlier listed =>
      Bool.eq_false_iff.mp (free earlier listed), Option.getD_none]
  refine ⟨before, after, split, declared, first, answer, ?_, ?_⟩
  · intro free
    refine kept fun earlier listed => Bool.eq_false_iff.mpr fun folds => ?_
    obtain ⟨key, declared, same⟩ := Member.foldsTo_iff.mp folds
    exact free earlier listed key declared same
  · intro cased
    exact kept fun earlier _ => earlier.foldsTo_eq_false cased

/-- A capitalised name keeps its member behind one with the same name in lower
case. -/
theorem capitalised_name_kept :
    let lower : Member (.integer .int32) := ⟨.integer ⟨1, by decide⟩, "red", [], true⟩
    let upper : Member (.integer .int32) := ⟨.integer ⟨2, by decide⟩, "Red", [], true⟩
    (ofMembers false [lower, upper]).findByName? "Red" = some upper ∧
      (ofMembers true [lower, upper]).findByName? "Red" = some upper := by
  intro lower upper
  have found : (ofMembers false [lower, upper]).findByName? "Red" = some upper := by
    rw [findByName?_eq_scanForName?]
    rfl
  obtain ⟨-, -, -, -, -, -, -, kept⟩ := findByName?_insensitive found
  exact ⟨found, kept (by decide)⟩

/-- A name in lower case is taken over by a capitalised one declared earlier, so
the match with case is not the match without it. -/
theorem lowercase_name_taken_over :
    let upper : Member (.integer .int32) := ⟨.integer ⟨1, by decide⟩, "Red", [], true⟩
    let lower : Member (.integer .int32) := ⟨.integer ⟨2, by decide⟩, "red", [], true⟩
    (ofMembers false [upper, lower]).findByName? "red" = some lower ∧
      (ofMembers true [upper, lower]).findByName? "red" = some upper ∧
        lower.raw.equal upper.raw = false := by
  refine ⟨?_, ?_, rfl⟩
  · exact findByName?_eq_scanForName? _ _ _
  · exact findByName?_eq_scanForName? _ _ _

end Table

end NamedConstants
