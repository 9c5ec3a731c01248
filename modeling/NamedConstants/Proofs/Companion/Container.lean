import NamedConstants.Companion.Writer
import NamedConstants.Proofs.Companion.Lines
import NamedConstants.Proofs.Declaration.Scan
import NamedConstants.Proofs.Source.Item
import NamedConstants.Proofs.Text.WordCase

/-!
# The lines of a container

The container of a scanned family has a field line for every member, with a
comment line above it where the member has a comment, exactly if no comment
holds a line feed (`linesOf_containerStruct_iff`). The names in the lines come
from identifiers and never break a line. A comment is written as it stands in
the documentation, so what follows a line feed in it is read as code
(`linesOf_containerStruct_of_blockComment`).

Nothing else in a companion depends on comments (`exists_write_uncommented`).
-/

set_option autoImplicit false

namespace NamedConstants

/-- The constant without its comment. -/
def Constant.uncommented (constant : Constant) : Constant :=
  { constant with comment := none }

/-- The family without the comments of its members. -/
def Declaration.uncommented (declaration : Declaration) : Declaration :=
  { declaration with members := declaration.members.map Constant.uncommented }

namespace Companion

variable {declaration : Declaration}

/-! ## Comments in a companion -/

/-- What is written for each member without a look at its comment stays. -/
theorem map_uncommented (line : Declaration → Constant → String)
    (blind : ∀ member, line declaration.uncommented member.uncommented = line declaration member) :
    declaration.uncommented.members.map (line declaration.uncommented) =
      declaration.members.map (line declaration) := by
  rw [Declaration.uncommented, List.map_map]
  exact List.map_congr_left fun member _ => blind member

theorem exists_containerLines (declaration : Declaration) :
    ∃ above below : Lines,
      containerLines declaration = above ++ containerStruct declaration ++ below ∧
      containerLines declaration.uncommented =
        above ++ containerStruct declaration.uncommented ++ below := by
  have regroup (note struct blank value last : Lines) :
      note ++ struct ++ blank ++ value ++ last = note ++ struct ++ (blank ++ value ++ last) := by
    simp only [List.append_assoc]
  refine ⟨_, _, regroup _ _ _ _ _, ?_⟩
  rw [containerLines, map_uncommented fieldValueLine fun _ => rfl]
  exact regroup _ _ _ _ _

theorem tableLines_uncommented (declaration : Declaration) (insensitive : Bool) :
    tableLines declaration.uncommented insensitive = tableLines declaration insensitive := by
  have entries : declaration.uncommented.members.map
        (fun member => entryLine declaration.uncommented (.ofMember member)) =
      declaration.members.map fun member => entryLine declaration (.ofMember member) :=
    map_uncommented (fun declaration member => entryLine declaration (.ofMember member))
      fun _ => rfl
  unfold tableLines
  rw [entries]
  rfl

theorem inherentLines_uncommented (declaration : Declaration) (failfast : Bool) :
    inherentLines declaration.uncommented failfast = inherentLines declaration failfast := by
  have names : nameConstants declaration.uncommented = nameConstants declaration := by
    unfold nameConstants
    rw [Declaration.uncommented, List.map_map]
    rfl
  unfold inherentLines
  rw [names]
  rfl

theorem exists_declarationLines (request : Request) (declaration : Declaration) :
    ∃ above below : Lines,
      declarationLines request declaration = above ++ containerStruct declaration ++ below ∧
      declarationLines request declaration.uncommented =
        above ++ containerStruct declaration.uncommented ++ below := by
  obtain ⟨note, values, whole, uncommented⟩ := exists_containerLines declaration
  refine ⟨title declaration ++ wrapperLines declaration ++ note,
    values ++ tableLines declaration request.insensitive ++
      inherentLines declaration request.failfast ++ displayLines declaration ++
      traitLines declaration ++ surfaceLines declaration, ?_, ?_⟩
  · rw [declarationLines, whole]
    simp only [List.append_assoc]
  · rw [declarationLines, uncommented, tableLines_uncommented, inherentLines_uncommented]
    simp only [List.append_assoc]
    rfl

/-- **Comments stand in the container only.** A companion without the comments of
a family differs in the struct of its container and nowhere else. -/
theorem exists_write_uncommented (request : Request) (before after : List Declaration)
    (declaration : Declaration) :
    ∃ above below : String,
      write { request with declarations := before ++ declaration :: after } =
        above ++ text (containerStruct declaration) ++ below ∧
      write { request with declarations := before ++ declaration.uncommented :: after } =
        above ++ text (containerStruct declaration.uncommented) ++ below := by
  obtain ⟨above, below, whole, uncommented⟩ := exists_declarationLines request declaration
  have split (declaration : Declaration)
      (own : declarationLines request declaration =
        above ++ containerStruct declaration ++ below) :
      write { request with declarations := before ++ declaration :: after } =
        text (header request ++
            before.flatMap (fun declaration => "" :: declarationLines request declaration) ++
            "" :: above) ++
          text (containerStruct declaration) ++
          text (below ++
            after.flatMap fun declaration => "" :: declarationLines request declaration) := by
    have others : lines { request with declarations := before ++ declaration :: after } =
        header request ++ (before ++ declaration :: after).flatMap
          fun declaration => "" :: declarationLines request declaration :=
      rfl
    rw [write, others, List.flatMap_append, List.flatMap_cons, own, ← text_append, ← text_append]
    simp only [List.append_assoc, List.cons_append]
  exact ⟨_, _, split declaration whole, split declaration.uncommented uncommented⟩

/-! ## The lines of a container -/

theorem indented_append {front : String} (starts : front ≠ "") (rest : String) :
    indented (front ++ rest) = "    " ++ (front ++ rest) := by
  have filled : ¬(front ++ rest).isEmpty = true := by
    rw [String.isEmpty_iff, String.append_eq_empty_iff]
    exact fun empty => starts empty.1
  rw [indented, if_neg filled]

/-- The lines that a member has in a container: one for its comment, if it has
one, and one for its field. -/
def memberLines (declaration : Declaration) (member : Constant) : Lines :=
  (member.comment.toList.map fun comment => "    /// " ++ comment) ++
    ["    pub " ++ fieldOf declaration member ++ ": " ++ declaration.wrapper ++ ","]

/-- The struct of a container as the lines that are meant. -/
def memberStruct (declaration : Declaration) : Lines :=
  ["pub struct " ++ declaration.container ++ " \x7b"] ++
    declaration.members.flatMap (memberLines declaration) ++ ["\x7d"]

theorem map_indented_fieldLines (declaration : Declaration) (member : Constant) :
    (fieldLines declaration member).map indented = memberLines declaration member := by
  have note (comment : String) : indented ("/// " ++ comment) = "    /// " ++ comment := by
    rw [indented_append (by decide), ← String.append_assoc]
    rfl
  have field : indented ("pub " ++ fieldOf declaration member ++ ": " ++ declaration.wrapper ++ ",") =
      "    pub " ++ fieldOf declaration member ++ ": " ++ declaration.wrapper ++ "," := by
    simp only [String.append_assoc]
    rw [indented_append (by decide), ← String.append_assoc]
    rfl
  rw [fieldLines, memberLines, List.map_append, List.map_map, List.map_singleton, field]
  exact congrArg (· ++ _) (List.map_congr_left fun comment _ => note comment)

theorem containerStruct_eq (declaration : Declaration) :
    containerStruct declaration = memberStruct declaration := by
  rw [containerStruct, block, enclosed, List.map_flatMap, memberStruct]
  simp only [map_indented_fieldLines]

/-! ## Line feeds -/

theorem lineFeed_not_mem_append {front rest : String} (head : '\n' ∉ front.toList)
    (tail : '\n' ∉ rest.toList) : '\n' ∉ (front ++ rest).toList := by
  rw [String.toList_append, List.mem_append, not_or]
  exact ⟨head, tail⟩

/-- The names of the family and its members come from identifiers. -/
structure HasOneLineNames (declaration : Declaration) : Prop where
  typeName : '\n' ∉ declaration.typeName.toList
  ident : ∀ member ∈ declaration.members, '\n' ∉ member.ident.toList

theorem lineFeed_not_mem_pascal {ident suffix : String} (plain : '\n' ∉ ident.toList)
    (fixed : '\n' ∉ suffix.toList) :
    '\n' ∉ (String.ofList (Text.pascalCase ident.toList) ++ suffix).toList := by
  refine lineFeed_not_mem_append ?_ fixed
  rw [String.toList_ofList]
  exact Text.lineFeed_not_mem_pascalCase plain

theorem lineFeed_not_mem_fieldOf {member : Constant} (plain : '\n' ∉ member.ident.toList) :
    '\n' ∉ (fieldOf declaration member).toList := by
  rw [fieldOf, Constant.fieldName, String.toList_ofList]
  split
  · exact Text.lineFeed_not_mem_upperSnakeCase plain
  · exact Text.lineFeed_not_mem_snakeCase plain

/-- Only the comment can break the lines of a member. -/
theorem lineFeed_not_mem_memberLines_iff {member : Constant}
    (plain : HasOneLineNames declaration) (listed : member ∈ declaration.members) :
    (∀ line ∈ memberLines declaration member, '\n' ∉ line.toList) ↔
      ∀ comment, member.comment = some comment → '\n' ∉ comment.toList := by
  have field : '\n' ∉
      ("    pub " ++ fieldOf declaration member ++ ": " ++ declaration.wrapper ++ ",").toList := by
    refine lineFeed_not_mem_append (lineFeed_not_mem_append (lineFeed_not_mem_append
      (lineFeed_not_mem_append (by decide) ?_) (by decide)) ?_) (by decide)
    · exact lineFeed_not_mem_fieldOf (plain.ident member listed)
    · exact lineFeed_not_mem_pascal plain.typeName (by decide)
  constructor
  · intro whole comment said feed
    refine whole ("    /// " ++ comment) ?_ ?_
    · rw [memberLines, said]
      exact List.mem_cons_self
    · rw [String.toList_append]
      exact List.mem_append_right _ feed
  · intro said line inside
    rcases List.mem_append.mp inside with note | own
    · obtain ⟨comment, given, rfl⟩ := List.mem_map.mp note
      exact lineFeed_not_mem_append (by decide) (said comment (Option.mem_toList.mp given))
    · rw [List.mem_singleton.mp own]
      exact field

theorem lineFeed_not_mem_memberStruct_iff (plain : HasOneLineNames declaration) :
    (∀ line ∈ memberStruct declaration, '\n' ∉ line.toList) ↔
      ∀ member ∈ declaration.members, ∀ comment, member.comment = some comment →
        '\n' ∉ comment.toList := by
  constructor
  · intro whole member listed
    refine (lineFeed_not_mem_memberLines_iff plain listed).mp fun line inside => whole line ?_
    exact List.mem_append_left _ (List.mem_append_right _
      (List.mem_flatMap.mpr ⟨member, listed, inside⟩))
  · intro said line inside
    rcases List.mem_append.mp inside with above | closing
    · rcases List.mem_append.mp above with opening | between
      · rw [List.mem_singleton.mp opening]
        exact lineFeed_not_mem_append (lineFeed_not_mem_append (by decide)
          (lineFeed_not_mem_pascal plain.typeName (by decide))) (by decide)
      · obtain ⟨member, listed, own⟩ := List.mem_flatMap.mp between
        exact (lineFeed_not_mem_memberLines_iff plain listed).mpr (said member listed) line own
    · rw [List.mem_singleton.mp closing]
      decide

/-! ## Scanned families -/

/-- The names of a scanned family stand on one line. -/
theorem hasOneLineNames_of_isDeclaredBy {text : List Char} {items : List Source.Item}
    (read : Source.fileItems? text = some items)
    (declared : Scan.IsDeclaredBy items declaration) : HasOneLineNames declaration := by
  obtain ⟨⟨item, listed, named⟩, members⟩ := declared
  refine ⟨?_, fun member inside => ?_⟩
  · rw [← named]
    exact Source.lineFeed_not_mem_ident read listed rfl
  · obtain ⟨constant, listed, own⟩ := members member inside
    rw [Scan.ident_of_member? own]
    exact Source.lineFeed_not_mem_ident read listed rfl

/-- **A container has one line for every comment and every field, exactly if no
comment holds a line feed.** A line feed in a comment stands inside of a text
that documents the constant. Whatever a comment holds, it stands in the struct
of the container and nowhere else in the companion. -/
theorem linesOf_containerStruct_iff {configuration : Configuration} {filename text : String}
    {declarations : List Declaration}
    (scanned : Declaration.scan configuration filename text = .ok declarations)
    (listed : declaration ∈ declarations) :
    (linesOf (Companion.text (containerStruct declaration)) = memberStruct declaration ↔
      ∀ member ∈ declaration.members, ∀ comment, member.comment = some comment →
        '\n' ∉ comment.toList) ∧
    (∀ member ∈ declaration.members, ∀ comment, member.comment = some comment →
      '\n' ∈ comment.toList → ∃ items item, Source.fileItems? text.toList = some items ∧
        .constant item ∈ items ∧ item.ident = member.ident ∧
        ∃ doc ∈ item.docs, '\n' ∈ Text.trim doc.toList) ∧
    ∀ (request : Request) (before after : List Declaration), ∃ above below : String,
      write { request with declarations := before ++ declaration :: after } =
        above ++ Companion.text (containerStruct declaration) ++ below ∧
      write { request with declarations := before ++ declaration.uncommented :: after } =
        above ++ Companion.text (containerStruct declaration.uncommented) ++ below := by
  obtain ⟨items, read, declared⟩ := Scan.isDeclaredBy_of_scan scanned
  have own := declared declaration listed
  refine ⟨?_, fun member inside comment said feed => ?_, fun request before after =>
    exists_write_uncommented request before after declaration⟩
  · rw [containerStruct_eq, linesOf_text_eq_iff]
    exact lineFeed_not_mem_memberStruct_iff (hasOneLineNames_of_isDeclaredBy read own)
  · obtain ⟨item, there, found⟩ := own.2 member inside
    exact ⟨items, item, read, there, (Scan.ident_of_member? found).symm,
      Scan.lineFeed_mem_doc_of_mem_comment found said feed⟩

/-- A source whose constant has a comment on one line. -/
def lineComment : String :=
  "type A = u8;\n/// ; one\nconst B: A = 1;\n"

/-- A comment on one line stands above its field. -/
theorem linesOf_containerStruct_of_lineComment :
    Declaration.scan .default "reader" lineComment = .ok [Scan.oneMember " ; one".toList] ∧
      linesOf (text (containerStruct (Scan.oneMember " ; one".toList))) =
        ["pub struct AContainer \x7b", "    /// one", "    pub b: AEnum,", "\x7d"] := by
  have read : Source.fileTokens? lineComment.toList = some (Scan.oneConstant " ; one".toList) := by
    rfl
  have scanned := Scan.scan_oneConstant read "reader"
  have lines := (linesOf_containerStruct_iff scanned List.mem_cons_self).1.mpr (by decide +kernel)
  refine ⟨scanned, lines.trans ?_⟩
  decide +kernel

/-- A source whose constant has a comment with a line feed in it. -/
def blockComment : String :=
  "type A = u8;\n/** ; one\n    pub two: AEnum, */\nconst B: A = 1;\n"

/-- What follows a line feed in a comment stands in the container as a field of
its own. -/
theorem linesOf_containerStruct_of_blockComment :
    ∃ declaration, Declaration.scan .default "reader" blockComment = .ok [declaration] ∧
      declaration.members.map Constant.ident = ["B"] ∧
      linesOf (text (containerStruct declaration)) =
        ["pub struct AContainer \x7b", "    /// one", "    pub two: AEnum,", "    pub b: AEnum,",
          "\x7d"] ∧
      linesOf (text (containerStruct declaration)) ≠ memberStruct declaration := by
  have read : Source.fileTokens? blockComment.toList =
      some (Scan.oneConstant " ; one\n    pub two: AEnum, ".toList) := by
    rfl
  refine ⟨_, Scan.scan_oneConstant read "reader", rfl, ?_, ?_⟩
  · decide +kernel
  · decide +kernel

end Companion

end NamedConstants
