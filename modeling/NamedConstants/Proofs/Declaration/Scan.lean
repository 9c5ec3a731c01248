import NamedConstants.Declaration.Scan
import NamedConstants.Proofs.Result
import NamedConstants.Proofs.Source.Item
import NamedConstants.Proofs.Text.Piece

/-!
# What a scan keeps

A family that is scanned has the name of an alias among the items, and each of
its members is a constant of exactly that type (`isDeclaredBy_of_scan`). The
comment of a member is put together from the documentation of the constant, so
its line feeds are line feeds inside of a documentation text
(`lineFeed_mem_doc_of_mem_comment`).
-/

set_option autoImplicit false

namespace NamedConstants

open Source (Item Alias ConstantItem)

namespace Scan

variable {configuration : Configuration} {items : List Item}

/-- The name and the members of a family stand among the items. -/
def IsDeclaredBy (items : List Item) (declaration : Declaration) : Prop :=
  (∃ item, .alias item ∈ items ∧ item.ident = declaration.typeName) ∧
    ∀ member ∈ declaration.members, ∃ item, .constant item ∈ items ∧
      member? item = some (declaration.typeName, member)

/-! ## Families -/

/-- A family opens without members, under the name of its alias. -/
theorem typeName_of_openFamily? {item : Alias} {family : OpenFamily}
    (opened : openFamily? configuration item = .ok (some family)) :
    family.declaration.typeName = item.ident ∧ family.declaration.members = [] := by
  unfold openFamily? at opened
  obtain ⟨options, -, opened⟩ := bind_eq_ok_iff.mp opened
  split at opened
  · cases opened
    exact ⟨rfl, rfl⟩
  · split at opened
    · cases opened
    · cases opened

theorem isDeclaredBy_of_openFamilies {rest : List Item} {families : List OpenFamily}
    (opened : openFamilies configuration rest = .ok families)
    (within : ∀ item ∈ rest, item ∈ items) :
    ∀ family ∈ families, IsDeclaredBy items family.declaration := by
  induction rest generalizing families with
  | nil =>
      cases opened
      intro family listed
      cases listed
  | cons item rest ih =>
      obtain ⟨head, tail⟩ := List.forall_mem_cons.mp within
      rcases item with item | item | -
      · rw [openFamilies] at opened
        obtain ⟨found, first, opened⟩ := bind_eq_ok_iff.mp opened
        obtain ⟨others, later, opened⟩ := bind_eq_ok_iff.mp opened
        cases opened
        intro family listed
        rcases List.mem_append.mp listed with own | behind
        · rw [Option.mem_toList] at own
          obtain ⟨name, none⟩ := typeName_of_openFamily? (first.trans (congrArg _ own))
          refine ⟨⟨item, head, name.symm⟩, fun member inside => ?_⟩
          rw [none] at inside
          cases inside
        · exact ih later tail family behind
      · exact ih opened tail
      · exact ih opened tail

/-! ## Members -/

theorem exists_of_mem_members {member : String × Constant} (listed : member ∈ members items) :
    ∃ item, .constant item ∈ items ∧ member? item = some member := by
  obtain ⟨item, inside, found⟩ := List.mem_filterMap.mp listed
  rcases item with item | item | -
  · cases found
  · exact ⟨item, inside, found⟩
  · cases found

/-- A constant is added to a family of its type. -/
theorem isDeclaredBy_of_attach {families : List OpenFamily} {member : String × Constant}
    {item : ConstantItem} (listed : .constant item ∈ items) (own : member? item = some member)
    (declared : ∀ family ∈ families, IsDeclaredBy items family.declaration) :
    ∀ family ∈ attach families member, IsDeclaredBy items family.declaration := by
  induction families with
  | nil => exact declared
  | cons family families ih =>
      obtain ⟨head, tail⟩ := List.forall_mem_cons.mp declared
      rw [attach]
      split
      · rename_i same
        refine List.forall_mem_cons.mpr ⟨⟨head.1, fun inside found => ?_⟩, tail⟩
        rcases List.mem_append.mp found with old | new
        · exact head.2 inside old
        · rw [List.mem_singleton.mp new]
          exact ⟨item, listed, own.trans (congrArg some (Prod.ext (beq_iff_eq.mp same).symm rfl))⟩
      · exact List.forall_mem_cons.mpr ⟨head, ih tail⟩

theorem isDeclaredBy_of_attachAll {families : List OpenFamily} {others : List (String × Constant)}
    (within : ∀ member ∈ others, member ∈ members items)
    (declared : ∀ family ∈ families, IsDeclaredBy items family.declaration) :
    ∀ family ∈ others.foldl attach families, IsDeclaredBy items family.declaration := by
  induction others generalizing families with
  | nil => exact declared
  | cons member others ih =>
      obtain ⟨head, tail⟩ := List.forall_mem_cons.mp within
      obtain ⟨item, listed, own⟩ := exists_of_mem_members head
      exact ih tail (isDeclaredBy_of_attach listed own declared)

/-! ## Declarations -/

/-- The families that are left are families that were open. -/
theorem exists_of_mem_close {filename : String} {families : List OpenFamily}
    {declarations : List Declaration} (closed : close filename families = .ok declarations) :
    ∀ declaration ∈ declarations, ∃ family ∈ families, family.declaration = declaration := by
  induction families generalizing declarations with
  | nil =>
      cases closed
      intro declaration listed
      cases listed
  | cons family families ih =>
      have later {others : List Declaration} (closed : close filename families = .ok others) :
          ∀ declaration ∈ others, ∃ own ∈ family :: families, own.declaration = declaration := by
        intro declaration listed
        obtain ⟨own, behind, same⟩ := ih closed declaration listed
        exact ⟨own, List.mem_cons_of_mem family behind, same⟩
      rw [close] at closed
      split at closed
      · split at closed
        · cases closed
        · exact later closed
      · obtain ⟨found, others, rfl⟩ := map_eq_ok_iff.mp closed
        exact List.forall_mem_cons.mpr ⟨⟨family, List.mem_cons_self, rfl⟩, later others⟩

theorem isDeclaredBy_of_ofItems {filename : String} {declarations : List Declaration}
    (scanned : ofItems configuration filename items = .ok declarations) :
    ∀ declaration ∈ declarations, IsDeclaredBy items declaration := by
  obtain ⟨families, opened, closed⟩ := bind_eq_ok_iff.mp scanned
  intro declaration listed
  obtain ⟨family, inside, rfl⟩ := exists_of_mem_close closed declaration listed
  exact isDeclaredBy_of_attachAll (fun member own => own)
    (isDeclaredBy_of_openFamilies opened fun item own => own) family inside

/-- **What is scanned stands in the source.** -/
theorem isDeclaredBy_of_scan {filename text : String} {declarations : List Declaration}
    (scanned : Declaration.scan configuration filename text = .ok declarations) :
    ∃ items, Source.fileItems? text.toList = some items ∧
      ∀ declaration ∈ declarations, IsDeclaredBy items declaration := by
  unfold Declaration.scan at scanned
  split at scanned
  · rename_i items read
    exact ⟨items, read, isDeclaredBy_of_ofItems scanned⟩
  · cases scanned

/-! ## Comments -/

theorem mem_of_mem_trim {text : List Char} {c : Char} (listed : c ∈ Text.trim text) : c ∈ text := by
  have front := List.mem_reverse.mp (List.dropWhile_suffix _ |>.mem (List.mem_reverse.mp listed))
  exact (List.dropWhile_suffix _).mem front

/-- A line feed of a comment stands inside of a line of documentation. -/
theorem lineFeed_mem_line_of_mem_comment {lines : List String} {comment : String}
    (found : (MemberDoc.ofLines lines).comment = some comment) (feed : '\n' ∈ comment.toList) :
    ∃ line ∈ lines, '\n' ∈ line.toList := by
  cases lines with
  | nil => cases found
  | cons first others =>
      obtain ⟨joined, parts, rfl⟩ := Option.map_eq_some_iff.mp found
      rw [String.toList_ofList] at feed
      unfold MemberDoc.commentOf at parts
      split at parts
      · cases parts
      · rename_i part rest kept
        cases parts
        rcases Text.mem_join feed with blank | ⟨own, listed, inside⟩
        · exact absurd blank (by decide)
        · rw [← kept] at listed
          rcases List.mem_cons.mp (List.mem_filter.mp listed).1 with rfl | later
          · refine ⟨first, List.mem_cons_self, ?_⟩
            unfold MemberDoc.lineComment at inside
            split at inside
            · rename_i names behind cut
              rw [Text.eq_of_cut?_eq_some cut]
              exact List.mem_append_right _ (List.mem_cons_of_mem _ (mem_of_mem_trim inside))
            · cases inside
          · obtain ⟨line, further, rfl⟩ := List.mem_map.mp later
            exact ⟨line, List.mem_cons_of_mem first further, mem_of_mem_trim inside⟩

/-- **A line feed of a comment stands inside of a documentation text.** -/
theorem lineFeed_mem_doc_of_mem_comment {item : ConstantItem} {typeName comment : String}
    {member : Constant} (own : member? item = some (typeName, member))
    (found : member.comment = some comment) (feed : '\n' ∈ comment.toList) :
    ∃ doc ∈ item.docs, '\n' ∈ Text.trim doc.toList := by
  unfold member? at own
  split at own
  · cases own
    obtain ⟨line, listed, inside⟩ := lineFeed_mem_line_of_mem_comment found feed
    obtain ⟨doc, own, rfl⟩ := List.mem_map.mp listed
    rw [String.toList_ofList] at inside
    exact ⟨doc, own, inside⟩
  · cases own

/-- A member has the identifier of its constant. -/
theorem ident_of_member? {item : ConstantItem} {typeName : String} {member : Constant}
    (own : member? item = some (typeName, member)) : member.ident = item.ident := by
  unfold member? at own
  split at own
  · cases own
    rfl
  · cases own

/-! ## One constant -/

/-- The tokens of a source with an alias and one documented constant. -/
def oneConstant (doc : List Char) : List Source.Token :=
  [.word "type" false, .word "A" false, .mark '=' false, .word "u8" false, .mark ';' false,
    .mark '#' false,
    .group .bracket [.word "doc" false, .mark '=' false, .literal (.string doc)],
    .word "const" false, .word "B" false, .mark ':' false, .word "A" false, .mark '=' false,
    .literal (.integer ['1']), .mark ';' false]

/-- The family that such a source declares. -/
def oneMember (doc : List Char) : Declaration :=
  let said := MemberDoc.ofLines (docLines [String.ofList doc])
  { typeName := "A", underlying := "u8", kind := .integer .uint8, stored := "u8"
    members := [⟨"B", "1", said.aliases, said.isValid, said.comment⟩]
    options := .plain "A" }

theorem scan_oneConstant {text : String} {doc : List Char}
    (read : Source.fileTokens? text.toList = some (oneConstant doc)) (filename : String) :
    Declaration.scan .default filename text = .ok [oneMember doc] := by
  have byte := @Source.TypeForm.ofTokens_word "u8" (by decide)
  have own := @Source.TypeForm.ofTokens_word "A" (by decide)
  have value := Source.ValueForm.ofTokens_literal (.integer ['1'])
  have items : Source.fileItems? text.toList = some [.alias ⟨[], "A", .name "u8"⟩,
      .constant ⟨[String.ofList doc], "B", .name "A", .literal (.integer ['1'])⟩] := by
    rw [Source.fileItems?, read, ← byte, ← own, ← value]
    rfl
  unfold Declaration.scan
  rw [items]
  rfl

end Scan

end NamedConstants
