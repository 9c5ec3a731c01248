import NamedConstants.Declaration.Scan

/-!
# Directives

The options that an alias asks for are those of the last directive in its
documentation (`Scan.directive?_of_known`). A flag that is not known anywhere in
it is a failure (`Scan.directive?_of_unknown`).
-/

set_option autoImplicit false

namespace NamedConstants

/-! ## Flags -/

namespace Options

/-- The flags of a directive that mean something. -/
def knownFlags : List String :=
  ["-json", "-text", "-binary", "-yaml", "-serde", "-sql", "-all", "-uppercaseFields", "-genName",
    "-serde/name", "-serde/value"]

theorem withFlag?_isSome_iff (options : Options) {flag : String} :
    (options.withFlag? flag).isSome = true ↔ flag ∈ knownFlags := by
  unfold withFlag?
  split <;> simp_all [knownFlags]

variable {flags : List String}

theorem exists_withFlags_of_known (known : ∀ flag ∈ flags, flag ∈ knownFlags) (options : Options) :
    ∃ next, options.withFlags flags = .ok next := by
  induction flags generalizing options with
  | nil => exact ⟨options, rfl⟩
  | cons flag flags ih =>
      obtain ⟨head, tail⟩ := List.forall_mem_cons.mp known
      obtain ⟨next, first⟩ := Option.isSome_iff_exists.mp
        ((withFlag?_isSome_iff options).mpr head)
      obtain ⟨last, later⟩ := ih tail next
      exact ⟨last, by rw [withFlags, first]; exact later⟩

theorem exists_withFlags_of_unknown (unknown : ∃ flag ∈ flags, flag ∉ knownFlags)
    (options : Options) : ∃ message, options.withFlags flags = .error (.directive message) := by
  induction flags generalizing options with
  | nil =>
      obtain ⟨flag, listed, -⟩ := unknown
      cases listed
  | cons flag flags ih =>
      cases first : options.withFlag? flag with
      | none => exact ⟨_, by rw [withFlags, first]⟩
      | some next =>
          have head : flag ∈ knownFlags :=
            (withFlag?_isSome_iff options).mp (Option.isSome_iff_exists.mpr ⟨next, first⟩)
          obtain ⟨other, listed, strange⟩ := unknown
          rcases List.mem_cons.mp listed with rfl | behind
          · exact absurd head strange
          · obtain ⟨message, later⟩ := ih ⟨other, behind, strange⟩ next
            exact ⟨message, by rw [withFlags, first]; exact later⟩

/-- The options that known flags ask for. -/
def ofFlags (typeName : String) (flags : List String) : Options :=
  ((plain typeName).withFlags flags).toOption.getD (plain typeName)

theorem withFlags_of_known (known : ∀ flag ∈ flags, flag ∈ knownFlags) (typeName : String) :
    (plain typeName).withFlags flags = .ok (ofFlags typeName flags) := by
  obtain ⟨next, reached⟩ := exists_withFlags_of_known known (plain typeName)
  rw [ofFlags, reached]
  rfl

end Options

/-! ## Directives of a documentation -/

namespace Scan

open Options (flags? knownFlags)

/-- The line is a directive with a flag that is not known. -/
def IsStrange (line : String) : Prop :=
  ∃ flags, flags? line = some flags ∧ ∃ flag ∈ flags, flag ∉ knownFlags

variable {typeName : String} {lines : List String}

theorem exists_ofLine_of_isStrange (typeName : String) {line : String} (strange : IsStrange line) :
    ∃ message, Options.ofLine typeName line = .error (.directive message) := by
  obtain ⟨flags, found, unknown⟩ := strange
  obtain ⟨message, failed⟩ := Options.exists_withFlags_of_unknown unknown (.plain typeName)
  exact ⟨message, by rw [Options.ofLine, found]; dsimp only; rw [failed]; rfl⟩

theorem ofLine_of_known {line : String} (known : ¬IsStrange line) :
    Options.ofLine typeName line = .ok ((flags? line).map (Options.ofFlags typeName)) := by
  rw [Options.ofLine]
  cases found : flags? line with
  | none => rfl
  | some flags =>
      have all : ∀ flag ∈ flags, flag ∈ knownFlags := fun flag listed =>
        Classical.byContradiction fun unknown => known ⟨flags, found, flag, listed, unknown⟩
      dsimp only
      rw [Options.withFlags_of_known all]
      rfl

/-- **A flag that is not known is a failure**, in whichever directive it stands. -/
theorem directive?_of_unknown (strange : ∃ line ∈ lines, IsStrange line) :
    ∃ message, directive? typeName lines = .error (.directive message) := by
  induction lines with
  | nil =>
      obtain ⟨line, listed, -⟩ := strange
      cases listed
  | cons line lines ih =>
      by_cases first : IsStrange line
      · obtain ⟨message, failed⟩ := exists_ofLine_of_isStrange typeName first
        exact ⟨message, by rw [directive?, failed]; rfl⟩
      · obtain ⟨other, listed, own⟩ := strange
        rcases List.mem_cons.mp listed with rfl | behind
        · exact absurd own first
        · obtain ⟨message, failed⟩ := ih ⟨other, behind, own⟩
          exact ⟨message, by rw [directive?, ofLine_of_known first, failed]; rfl⟩

/-- **The last directive counts.** -/
theorem directive?_of_known (known : ∀ line ∈ lines, ¬IsStrange line) :
    directive? typeName lines =
      .ok ((lines.filterMap flags?).getLast?.map (Options.ofFlags typeName)) := by
  induction lines with
  | nil => rfl
  | cons line lines ih =>
      obtain ⟨head, tail⟩ := List.forall_mem_cons.mp known
      rw [directive?, ofLine_of_known head, ih tail, List.filterMap_cons]
      cases flags? line with
      | none => exact congrArg Except.ok Option.or_none
      | some flags =>
          rw [List.getLast?_cons]
          cases (lines.filterMap flags?).getLast? with
          | none => rfl
          | some later => rfl

end Scan

end NamedConstants
