import NamedConstants.Proofs.Declaration.Attachment

/-!
# Outcomes of a scan

A scan fails exactly if a directive has an unknown flag, asks for a family of a
type that is not recognized, or asks for a family that gets no member
(`HasFault`). Otherwise it lists the aliases of recognized types that take
members, in order (`scan_eq_ok_iff`).

Recognized types are the supported ones, but for a lifetime that runs into the
name behind it (`scan_splitLifetime`) and for a slice in parentheses.
-/

set_option autoImplicit false

namespace NamedConstants

open Source (Item Alias TypeForm ValueForm)

namespace Scan

/-! ## Opening -/

/-- The alias has a flag that is not known. -/
def HasUnknownFlag (item : Alias) : Prop :=
  ∃ line ∈ docLines item.docs, IsStrange line

/-- A directive asks for a family of a type that is not recognized. -/
def HasUnsupportedTarget (item : Alias) : Prop :=
  isAnnotated item = true ∧ recognized? item.target = none

section Opening

variable {configuration : Configuration} {item : Alias}

theorem exists_openFamily?_of_unknownFlag (unknown : HasUnknownFlag item) :
    ∃ message, openFamily? configuration item = .error (.directive message) := by
  obtain ⟨message, failed⟩ := directive?_of_unknown unknown
  exact ⟨message, by rw [openFamily?, failed]; rfl⟩

theorem openFamily?_of_known (known : ¬HasUnknownFlag item) (plain : item.target.IsPlain) :
    openFamily? configuration item =
      match recognized? item.target with
      | some type => .ok (some (Holding.family configuration ⟨item, type, []⟩))
      | none =>
        if isAnnotated item then
          .error (.directive ("type " ++ item.ident ++
            " must alias an integer, float, bool, &str or &[u8]"))
        else .ok none := by
  have all : ∀ line ∈ docLines item.docs, ¬IsStrange line :=
    fun line listed strange => known ⟨line, listed, strange⟩
  rw [openFamily?, directive?_of_known all, ← lastFlags?, ← ofText?_eq_recognized? plain]
  simp only [bind, Except.bind, isAnnotated, Option.isSome_map]
  cases spelled : item.target.text? with
  | none => rfl
  | some text =>
      rw [Option.bind_some, Option.bind_some]
      cases ScalarType.ofText? text with
      | none => rfl
      | some type =>
          simp only [Option.map_some, Holding.family, Holding.declaration, spelled, isAnnotated,
            Option.getD_some]
          rfl

/-- A directive asks for what the alias cannot have. -/
def IsRefused (item : Alias) : Prop :=
  HasUnknownFlag item ∨ HasUnsupportedTarget item

theorem exists_openFamily?_of_isRefused (plain : item.target.IsPlain) (refused : IsRefused item) :
    ∃ message, openFamily? configuration item = .error (.directive message) := by
  by_cases unknown : HasUnknownFlag item
  · exact exists_openFamily?_of_unknownFlag unknown
  · obtain ⟨annotated, unsupported⟩ := refused.resolve_left unknown
    exact ⟨_, by rw [openFamily?_of_known unknown plain, unsupported]; exact if_pos annotated⟩

theorem openFamily?_of_accepted (plain : item.target.IsPlain) (accepted : ¬IsRefused item) :
    openFamily? configuration item = .ok ((recognized? item.target).map fun type =>
      Holding.family configuration ⟨item, type, []⟩) := by
  obtain ⟨known, supported⟩ := not_or.mp accepted
  rw [openFamily?_of_known known plain]
  cases meant : recognized? item.target with
  | some type => rfl
  | none =>
      have plainly : ¬isAnnotated item = true := fun annotated => supported ⟨annotated, meant⟩
      exact if_neg plainly

variable {rest : List Item}

/-- Opening fails at the first alias that is refused. -/
theorem exists_openFamilies_of_isRefused (plain : ∀ item ∈ aliases rest, item.target.IsPlain)
    (refused : ∃ item ∈ aliases rest, IsRefused item) :
    ∃ message, openFamilies configuration rest = .error (.directive message) := by
  induction rest with
  | nil =>
      obtain ⟨item, listed, -⟩ := refused
      cases listed
  | cons item rest ih =>
      rcases item with item | item | -
      · obtain ⟨head, tail⟩ := List.forall_mem_cons.mp plain
        by_cases first : IsRefused item
        · obtain ⟨message, failed⟩ := exists_openFamily?_of_isRefused head first
          exact ⟨message, by rw [openFamilies, failed]; rfl⟩
        · obtain ⟨other, listed, own⟩ := refused
          rcases List.mem_cons.mp listed with rfl | behind
          · exact absurd own first
          · obtain ⟨message, failed⟩ := ih tail ⟨other, behind, own⟩
            exact ⟨message, by
              rw [openFamilies, openFamily?_of_accepted head first, failed]; rfl⟩
      · exact ih plain refused
      · exact ih plain refused

/-- The families that open have no members yet. -/
theorem openFamilies_of_accepted (plain : ∀ item ∈ aliases rest, item.target.IsPlain)
    (accepted : ∀ item ∈ aliases rest, ¬IsRefused item) :
    openFamilies configuration rest =
      .ok ((aliases rest).filterMap fun item => (recognized? item.target).map fun type =>
        Holding.family configuration ⟨item, type, []⟩) := by
  induction rest with
  | nil => rfl
  | cons item rest ih =>
      rcases item with item | item | -
      · obtain ⟨head, tail⟩ := List.forall_mem_cons.mp plain
        obtain ⟨first, later⟩ := List.forall_mem_cons.mp accepted
        rw [openFamilies, openFamily?_of_accepted head first, ih tail later]
        have split : aliases (.alias item :: rest) = item :: aliases rest := rfl
        rw [split, List.filterMap_cons]
        cases recognized? item.target <;> rfl
      · exact ih plain accepted
      · exact ih plain accepted

end Opening

/-! ## Closing -/

section Closing

variable {configuration : Configuration} {filename : String}

/-- A directive asks for a family without members. -/
def IsMissing (holding : Holding) : Prop :=
  isAnnotated holding.item = true ∧ holding.members = []

theorem close_cons_of_isMissing {holding : Holding} (missing : IsMissing holding)
    (others : List OpenFamily) :
    close filename (holding.family configuration :: others) =
      .error (.directive ("type " ++ holding.item.ident ++ " in " ++ filename ++
        " is annotated but declares no constants")) := by
  obtain ⟨annotated, empty⟩ := missing
  simp only [close, Holding.family, Holding.declaration, empty, annotated, List.isEmpty_nil,
    if_true]

theorem close_cons_of_empty {holding : Holding} (empty : holding.members = [])
    (accepted : ¬IsMissing holding) (others : List OpenFamily) :
    close filename (holding.family configuration :: others) = close filename others := by
  have plainly : ¬isAnnotated holding.item = true := fun annotated => accepted ⟨annotated, empty⟩
  simp only [close, Holding.family, Holding.declaration, empty, List.isEmpty_nil, if_true,
    if_neg plainly]

theorem close_cons_of_filled {holding : Holding} (filled : holding.members ≠ [])
    (others : List OpenFamily) :
    close filename (holding.family configuration :: others) =
      (close filename others).map (holding.declaration configuration :: ·) := by
  have some : ¬holding.members.isEmpty = true := fun empty => filled (List.isEmpty_iff.mp empty)
  rw [close]
  exact if_neg some

theorem exists_close_of_isMissing {families : List Holding}
    (missing : ∃ holding ∈ families, IsMissing holding) :
    ∃ message, close filename (families.map (Holding.family configuration)) =
      .error (.directive message) := by
  induction families with
  | nil =>
      obtain ⟨holding, listed, -⟩ := missing
      cases listed
  | cons holding families ih =>
      rw [List.map_cons]
      by_cases first : IsMissing holding
      · exact ⟨_, close_cons_of_isMissing first _⟩
      · obtain ⟨other, listed, own⟩ := missing
        rcases List.mem_cons.mp listed with rfl | behind
        · exact absurd own first
        · obtain ⟨message, failed⟩ := ih ⟨other, behind, own⟩
          by_cases empty : holding.members = []
          · exact ⟨message, (close_cons_of_empty empty first _).trans failed⟩
          · exact ⟨message, by rw [close_cons_of_filled empty, failed]; rfl⟩

theorem close_of_accepted {families : List Holding}
    (accepted : ∀ holding ∈ families, ¬IsMissing holding) :
    close filename (families.map (Holding.family configuration)) =
      .ok ((families.filter fun holding => !holding.members.isEmpty).map
        (Holding.declaration configuration)) := by
  induction families with
  | nil => rfl
  | cons holding families ih =>
      obtain ⟨head, tail⟩ := List.forall_mem_cons.mp accepted
      rw [List.map_cons]
      by_cases empty : holding.members = []
      · rw [close_cons_of_empty empty head, ih tail, List.filter_cons_of_neg (by simp [empty])]
      · rw [close_cons_of_filled empty, ih tail, List.filter_cons_of_pos (by simp [empty])]
        rfl

end Closing

/-! ## Scanning -/

/-- What makes a scan fail: an alias that is refused, or one that a directive asks
for and that gets no member. -/
def HasFault (items : List Item) : Prop :=
  (∃ item ∈ aliases items, IsRefused item) ∨
    ∃ holding ∈ holdings items [] (aliases items), IsMissing holding

/-- The families that a file declares: the aliases of recognized types that take
members, in order. -/
def declarations (configuration : Configuration) (items : List Item) : List Declaration :=
  ((holdings items [] (aliases items)).filter fun holding => !holding.members.isEmpty).map
    (Holding.declaration configuration)

section Scanning

variable {configuration : Configuration} {items : List Item}

theorem ofItems_of_accepted (plain : ∀ item ∈ aliases items, item.target.IsPlain)
    (accepted : ∀ item ∈ aliases items, ¬IsRefused item) (filename : String) :
    ofItems configuration filename items =
      close filename ((holdings items [] (aliases items)).map (Holding.family configuration)) := by
  have all : remaining items [] = members items := List.filter_true _
  rw [ofItems, openFamilies_of_accepted plain accepted, ← foldl_attach_eq, all]
  rfl

theorem exists_ofItems_of_hasFault (plain : ∀ item ∈ aliases items, item.target.IsPlain)
    (fault : HasFault items) (configuration : Configuration) (filename : String) :
    ∃ message, ofItems configuration filename items = .error (.directive message) := by
  by_cases refused : ∃ item ∈ aliases items, IsRefused item
  · obtain ⟨message, failed⟩ := exists_openFamilies_of_isRefused plain refused
    exact ⟨message, by rw [ofItems, failed]; rfl⟩
  · have accepted : ∀ item ∈ aliases items, ¬IsRefused item :=
      fun item listed own => refused ⟨item, listed, own⟩
    rw [ofItems_of_accepted plain accepted]
    exact exists_close_of_isMissing (fault.resolve_left refused)

theorem ofItems_of_not_hasFault (plain : ∀ item ∈ aliases items, item.target.IsPlain)
    (sound : ¬HasFault items) (configuration : Configuration) (filename : String) :
    ofItems configuration filename items = .ok (declarations configuration items) := by
  obtain ⟨accepted, filled⟩ := not_or.mp sound
  rw [ofItems_of_accepted plain fun item listed own => accepted ⟨item, listed, own⟩]
  exact close_of_accepted fun holding listed own => filled ⟨holding, listed, own⟩

theorem scan_of_fileItems? {text : String} (read : Source.fileItems? text.toList = some items)
    (configuration : Configuration) (filename : String) :
    Declaration.scan configuration filename text = ofItems configuration filename items := by
  unfold Declaration.scan
  rw [read]

/-- What the families hold is what is held: a family without members holds nothing.
-/
theorem flatMap_declarations (configuration : Configuration) (items : List Item) :
    ((declarations configuration items).flatMap fun declaration =>
        declaration.members.map fun member => (declaration.typeName, member)) =
      held items [] (aliases items) := by
  rw [declarations, held, List.flatMap_map]
  induction holdings items [] (aliases items) with
  | nil => rfl
  | cons holding others ih =>
      by_cases empty : holding.members = []
      · rw [List.filter_cons_of_neg (by simp [empty]), ih, List.flatMap_cons, empty]
        rfl
      · rw [List.filter_cons_of_pos (by simp [empty]), List.flatMap_cons, ih, List.flatMap_cons]
        rfl

/-- **What a scan of a source yields.** It succeeds unless some alias has an unknown
flag, or is asked for but of a type that is not recognized or without members. It
then lists the aliases of recognized types that take members, in order, and every
constant with a literal of such a type is a member exactly once. -/
theorem scan_eq_ok_iff {text : String} (read : Source.fileItems? text.toList = some items)
    (configuration : Configuration) (filename : String) :
    (∀ found, Declaration.scan configuration filename text = .ok found ↔
      ¬HasFault items ∧ found = declarations configuration items) ∧
    (HasFault items ↔
      ∃ message, Declaration.scan configuration filename text = .error (.directive message)) ∧
    ∀ found, Declaration.scan configuration filename text = .ok found →
      (found.flatMap fun declaration =>
          declaration.members.map fun member => (declaration.typeName, member)).Perm
        ((members items).filter fun member =>
          (recognizedNames (aliases items)).contains member.1) := by
  have plain : ∀ item ∈ aliases items, item.target.IsPlain := fun item listed =>
    Source.isPlain_target_of_mem_fileItems? read (mem_aliases.mp listed)
  have all : remaining items [] = members items := List.filter_true _
  rw [scan_of_fileItems? read]
  by_cases fault : HasFault items
  · obtain ⟨message, failed⟩ := exists_ofItems_of_hasFault plain fault configuration filename
    rw [failed]
    refine ⟨fun found => ⟨fun same => ?_, fun both => absurd fault both.1⟩,
      ⟨fun _ => ⟨message, rfl⟩, fun _ => fault⟩, fun found same => ?_⟩
    · cases same
    · cases same
  · rw [ofItems_of_not_hasFault plain fault]
    refine ⟨fun found => ⟨fun same => ?_, fun both => ?_⟩,
      ⟨fun own => absurd own fault, fun failed => ?_⟩, fun found same => ?_⟩
    · cases same
      exact ⟨fault, rfl⟩
    · rw [both.2]
    · obtain ⟨message, same⟩ := failed
      cases same
    · cases same
      rw [flatMap_declarations, ← all]
      exact perm_held [] (aliases items)

theorem item_mem_of_mem_holdings {names : List String} {rest : List Alias} {holding : Holding}
    (listed : holding ∈ holdings items names rest) : holding.item ∈ rest := by
  induction rest generalizing names with
  | nil => cases listed
  | cons item rest ih =>
      rw [holdings] at listed
      split at listed
      · rcases List.mem_cons.mp listed with rfl | behind
        · exact List.mem_cons_self
        · exact List.mem_cons_of_mem item (ih behind)
      · exact List.mem_cons_of_mem item (ih listed)

/-- Nothing fails without documentation. -/
theorem not_hasFault_of_undocumented (plainly : ∀ item ∈ aliases items, item.docs = []) :
    ¬HasFault items := by
  have flagless (item : Alias) (listed : item ∈ aliases items) : isAnnotated item = false := by
    rw [isAnnotated, lastFlags?, plainly item listed]
    rfl
  rintro (⟨item, listed, ⟨line, inside, -⟩ | ⟨annotated, -⟩⟩ | ⟨holding, listed, annotated, -⟩)
  · rw [plainly item listed] at inside
    cases inside
  · rw [flagless item listed] at annotated
    cases annotated
  · rw [flagless holding.item (item_mem_of_mem_holdings listed)] at annotated
    cases annotated

/-- A source with a constant in front of its alias and a second alias of the name. -/
def scattered : String :=
  "const B: A = -(1);\ntype A = i8;\ntype A = u8;\n"

theorem fileItems?_scattered :
    Source.fileItems? scattered.toList = some [
      .constant ⟨[], "B", .name "A", .negation (.enclosed (.literal (.integer ['1'])))⟩,
      .alias ⟨[], "A", .name "i8"⟩, .alias ⟨[], "A", .name "u8"⟩] := by
  have read : Source.fileTokens? scattered.toList = some [
      .word "const" false, .word "B" false, .mark ':' false, .word "A" false, .mark '=' false,
      .mark '-' false, .group .parenthesis [.literal (.integer ['1'])], .mark ';' false,
      .word "type" false, .word "A" false, .mark '=' false, .word "i8" false, .mark ';' false,
      .word "type" false, .word "A" false, .mark '=' false, .word "u8" false, .mark ';' false] := by
    rfl
  have word (ident : String) (named : ident ≠ "_") := TypeForm.ofTokens_word named
  have negated : ValueForm.ofTokens [.mark '-' false,
      .group .parenthesis [.literal (.integer ['1'])]] =
        .negation (.enclosed (.literal (.integer ['1']))) := by
    simp [ValueForm.ofTokens]
  rw [Source.fileItems?, read, ← word "A" (by decide), ← word "i8" (by decide),
    ← word "u8" (by decide), ← negated]
  rfl

/-- The first alias takes the constant in front of it, and the second one is passed
over. -/
theorem scan_scattered :
    ∃ items, Source.fileItems? scattered.toList = some items ∧
      ∃ found, Declaration.scan .default "reader" scattered = .ok found ∧
        found.map (fun declaration => (declaration.typeName, declaration.underlying,
          declaration.members.map fun member => (member.ident, member.literal))) =
            [("A", "i8", [("B", "-1")])] ∧
        (found.flatMap fun declaration =>
          declaration.members.map fun member => (declaration.typeName, member)).length = 1 := by
  obtain ⟨success, -, once⟩ := scan_eq_ok_iff fileItems?_scattered .default "reader"
  have sound : ¬HasFault [
      .constant ⟨[], "B", .name "A", .negation (.enclosed (.literal (.integer ['1'])))⟩,
      .alias ⟨[], "A", .name "i8"⟩, .alias ⟨[], "A", .name "u8"⟩] :=
    not_hasFault_of_undocumented (by decide)
  have found := (success _).mpr ⟨sound, rfl⟩
  refine ⟨_, fileItems?_scattered, _, found, ?_, (once _ found).length_eq.trans ?_⟩
  · rfl
  · rfl

/-- A source with a lifetime and a name that spell a static text together. -/
def splitLifetime : String :=
  "type cstr = [u8; 1];\ntype A<'stati> = &'stati cstr;\nconst B: A = b\"x\";\n"

/-- The family of texts that is listed for it. -/
def splitDeclaration : Declaration where
  typeName := "A"
  underlying := "&'stati cstr"
  kind := .string
  stored := "String"
  members := [⟨"B", "b\"x\"", [], true, none⟩]
  options := .plain "A"

/-- An alias of a type that is not supported is listed if a lifetime runs into the
name behind it. -/
theorem scan_splitLifetime :
    ∃ items item, Source.fileItems? splitLifetime.toList = some items ∧
      aliases items = [⟨[], "cstr", .slice .other⟩, item] ∧ item.ident = "A" ∧
      scalarForms.lookup item.target.bare = none ∧ isSplit item.target = true ∧
      Declaration.scan .default "reader" splitLifetime = .ok [splitDeclaration] := by
  have read : Source.fileTokens? splitLifetime.toList = some [
      .word "type" false, .word "cstr" false, .mark '=' false,
      .group .bracket [.word "u8" false, .mark ';' false, .literal (.integer ['1'])],
      .mark ';' false,
      .word "type" false, .word "A" false, .mark '<' true, .lifetime "stati", .mark '>' false,
      .mark '=' false, .mark '&' true, .lifetime "stati", .word "cstr" false, .mark ';' false,
      .word "const" false, .word "B" false, .mark ':' false, .word "A" false, .mark '=' false,
      .literal (.bytes [120]), .mark ';' false] := by
    rfl
  have array : TypeForm.ofTokens [.group .bracket
      [.word "u8" false, .mark ';' false, .literal (.integer ['1'])]] = .slice .other := by
    simp [TypeForm.ofTokens]
  have target : TypeForm.ofTokens [.mark '&' true, .lifetime "stati", .word "cstr" false] =
      .reference (some "stati") (.name "cstr") := by
    simp [TypeForm.ofTokens, Source.wordText]
  have own : TypeForm.ofTokens [.word "A" false] = .name "A" := by
    simp [TypeForm.ofTokens, Source.wordText]
  have value : ValueForm.ofTokens [.literal (.bytes [120])] = .literal (.bytes [120]) := by
    simp [ValueForm.ofTokens]
  have items : Source.fileItems? splitLifetime.toList = some [
      .alias ⟨[], "cstr", .slice .other⟩,
      .alias ⟨[], "A", .reference (some "stati") (.name "cstr")⟩,
      .constant ⟨[], "B", .name "A", .literal (.bytes [120])⟩] := by
    rw [Source.fileItems?, read, ← array, ← target, ← own, ← value]
    rfl
  have scanned : Declaration.scan .default "reader" splitLifetime = .ok [splitDeclaration] := by
    rw [scan_of_fileItems? items]
    rfl
  exact ⟨_, _, items, rfl, rfl, by decide, by decide, scanned⟩

end Scanning

end Scan

end NamedConstants
