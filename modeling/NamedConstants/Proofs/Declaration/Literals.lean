import NamedConstants.Proofs.Declaration.Scan
import NamedConstants.Proofs.Source.ByteLiteral

/-!
# Literals of members

A member carries its value as a literal, however the source spells it. The literal of a text or of
bytes is read back as this text or these bytes (`literal?_of_content?`). So two such values have the
same literal only if they are the same (`text?_eq_text?_iff`), and the members of a family of strings
or of bytes can be told apart by their literals (`literals_are_faithful`).
-/

set_option autoImplicit false

namespace NamedConstants

open Source (ConstantItem Item Literal ValueForm literal? startsWord isPrintableAscii)

/-! ## Texts and bytes as values -/

/-- The string or the bytes that a value denotes. -/
def Source.ValueForm.content? : ValueForm → Option Literal
  | .literal (.string text) => some (.string text)
  | .literal (.bytes content) => some (.bytes content)
  | .enclosed inner => inner.content?
  | _ => none

namespace Source.ValueForm

variable {form first second : ValueForm} {content value value' : Literal}

/-- A value is written as the literal that it denotes. -/
theorem text?_of_content? (denotes : form.content? = some content) :
    form.text? = (literal content).text? := by
  fun_induction content? form with
  | case1 | case2 =>
      cases denotes
      rfl
  | case3 inner ih =>
      rw [text?]
      exact ih denotes
  | case4 => cases denotes

/-- **The literal that a value is written as denotes the value.** -/
theorem literal?_of_content? (denotes : form.content? = some content) :
    ∃ text, form.text? = some text ∧ literal? text.toList = some (content, []) := by
  rw [text?_of_content? denotes]
  fun_induction content? form with
  | case1 text =>
      cases denotes
      have read : literal? (Text.quoted text ++ []) = some (.string text, []) := literal?_quoted text rfl
      rw [List.append_nil] at read
      exact ⟨_, rfl, by rw [String.toList_ofList, read]⟩
  | case2 bytes =>
      cases denotes
      have read : literal? (Text.quotedBytes bytes ++ []) = some (.bytes bytes, []) := literal?_quotedBytes bytes rfl
      rw [List.append_nil] at read
      exact ⟨_, rfl, by rw [String.toList_ofList, read]⟩
  | case3 inner ih => exact ih denotes
  | case4 => cases denotes

/-- **Values have the same text exactly if they are the same.** -/
theorem text?_eq_text?_iff (denotes : first.content? = some value)
    (denotes' : second.content? = some value') :
    first.text? = second.text? ↔ value = value' := by
  constructor
  · intro same
    obtain ⟨text, written, read⟩ := literal?_of_content? denotes
    obtain ⟨text', written', read'⟩ := literal?_of_content? denotes'
    rw [written, written'] at same
    cases same
    rw [read] at read'
    exact (Prod.mk.inj (Option.some.inj read')).1
  · rintro rfl
    rw [text?_of_content? denotes, text?_of_content? denotes']

end Source.ValueForm

/-! ## Members -/

namespace Scan

variable {items : List Item} {declaration : Declaration} {member first second : Constant}
  {value value' : Literal}

/-- A member has the type and the literal of its constant. -/
theorem literal_of_member? {item : ConstantItem} {typeName : String}
    (own : member? item = some (typeName, member)) :
    item.type = .name typeName ∧ item.value.text? = some member.literal := by
  unfold member? at own
  split at own
  case h_1 found written =>
    cases own
    exact ⟨found, written⟩
  case h_2 => cases own

/-- The constants of the family are strings or bytes as far as they are literals. All of them are
so in a family of strings or of bytes if the source has types that fit. -/
def IsTextual (items : List Item) (declaration : Declaration) : Prop :=
  ∀ item, .constant item ∈ items → item.type = .name declaration.typeName →
    item.value.text?.isSome = true → item.value.content?.isSome = true

/-- The member stands for a constant of this value. -/
def IsValueOf (items : List Item) (declaration : Declaration) (member : Constant)
    (value : Literal) : Prop :=
  ∃ item, .constant item ∈ items ∧ member? item = some (declaration.typeName, member) ∧
    item.value.content? = some value

theorem exists_isValueOf (declared : IsDeclaredBy items declaration)
    (textual : IsTextual items declaration) (listed : member ∈ declaration.members) :
    ∃ value, IsValueOf items declaration member value := by
  obtain ⟨item, there, own⟩ := declared.2 member listed
  obtain ⟨type, written⟩ := literal_of_member? own
  obtain ⟨value, denotes⟩ := Option.isSome_iff_exists.mp
    (textual item there type (Option.isSome_of_eq_some written))
  exact ⟨value, item, there, own, denotes⟩

/-- The literal of a member denotes its value. -/
theorem literal?_of_isValueOf (stands : IsValueOf items declaration member value) :
    literal? member.literal.toList = some (value, []) := by
  obtain ⟨item, -, own, denotes⟩ := stands
  obtain ⟨text, written, read⟩ := ValueForm.literal?_of_content? denotes
  rw [(literal_of_member? own).2] at written
  cases written
  exact read

theorem literal_eq_literal_iff (stands : IsValueOf items declaration first value)
    (stands' : IsValueOf items declaration second value') :
    first.literal = second.literal ↔ value = value' := by
  obtain ⟨item, -, own, denotes⟩ := stands
  obtain ⟨item', -, own', denotes'⟩ := stands'
  have texts := ValueForm.text?_eq_text?_iff denotes denotes'
  rw [(literal_of_member? own).2, (literal_of_member? own').2, Option.some.injEq] at texts
  exact texts

/-- **Literals are faithful.** Quoted bytes are printable ASCII and denote the bytes, a quoted text
denotes the text, and members of a scanned family that stand for strings or bytes have the same
literal exactly if they have the same value. In a family of strings or of bytes every member stands
for one, and its literal denotes this value. -/
theorem literals_are_faithful :
    (∀ bytes : Text.Bytes, (Text.quotedBytes bytes).all isPrintableAscii = true ∧
      ∀ rest, startsWord rest = false →
        literal? (Text.quotedBytes bytes ++ rest) = some (.bytes bytes, rest)) ∧
    (∀ text rest : List Char, startsWord rest = false →
      literal? (Text.quoted text ++ rest) = some (.string text, rest)) ∧
    ∀ {configuration : Configuration} {filename text : String} {declarations : List Declaration},
      Declaration.scan configuration filename text = .ok declarations →
      ∃ items, Source.fileItems? text.toList = some items ∧
        ∀ declaration ∈ declarations,
          (∀ first ∈ declaration.members, ∀ second ∈ declaration.members, ∀ value value',
            IsValueOf items declaration first value → IsValueOf items declaration second value' →
              (first.literal = second.literal ↔ value = value')) ∧
          (IsTextual items declaration →
            ∀ member ∈ declaration.members, ∃ value, IsValueOf items declaration member value ∧
              literal? member.literal.toList = some (value, [])) := by
  refine ⟨fun bytes => ⟨Source.isPrintableAscii_quotedBytes bytes, fun rest ends =>
    Source.literal?_quotedBytes bytes ends⟩, fun text rest ends =>
    Source.literal?_quoted text ends, fun scanned => ?_⟩
  obtain ⟨items, read, declared⟩ := isDeclaredBy_of_scan scanned
  refine ⟨items, read, fun declaration listed => ⟨?_, fun textual member own => ?_⟩⟩
  · exact fun first _ second _ value value' => literal_eq_literal_iff
  · obtain ⟨value, stands⟩ := exists_isValueOf (declared declaration listed) textual own
    exact ⟨value, stands, literal?_of_isValueOf stands⟩

/-- A source of a family of bytes with two spellings of one value. -/
def spellings : String :=
  "type A = &'static [u8];\nconst B: A = b\"\\x41\\n\";\nconst C: A = (b\"A\\x0a\");\n" ++
    "const D: A = b\"a\";\n"

/-- The tokens of a constant of the family. -/
def constantTokens (ident : String) (value : List Source.Token) : List Source.Token :=
  [.word "const" false, .word ident false, .mark ':' false, .word "A" false, .mark '=' false] ++
    value ++ [.mark ';' false]

/-- What the source holds. -/
def spelledItems : List Item :=
  [.alias ⟨[], "A", .reference (some "static") (.slice (.name "u8"))⟩,
    .constant ⟨[], "B", .name "A", .literal (.bytes [65, 10])⟩,
    .constant ⟨[], "C", .name "A", .enclosed (.literal (.bytes [65, 10]))⟩,
    .constant ⟨[], "D", .name "A", .literal (.bytes [97])⟩]

theorem fileItems?_spellings : Source.fileItems? spellings.toList = some spelledItems := by
  have read : Source.fileTokens? spellings.toList = some
      ([.word "type" false, .word "A" false, .mark '=' false, .mark '&' true, .lifetime "static",
          .group .bracket [.word "u8" false], .mark ';' false] ++
        constantTokens "B" [.literal (.bytes [65, 10])] ++
        constantTokens "C" [.group .parenthesis [.literal (.bytes [65, 10])]] ++
        constantTokens "D" [.literal (.bytes [97])]) := by
    rfl
  have target : Source.TypeForm.ofTokens
      [.mark '&' true, .lifetime "static", .group .bracket [.word "u8" false]] =
        .reference (some "static") (.slice (.name "u8")) := by
    simp [Source.TypeForm.ofTokens, Source.wordText]
  have own := @Source.TypeForm.ofTokens_word "A" (by decide)
  have bare (bytes : Text.Bytes) := ValueForm.ofTokens_literal (.bytes bytes)
  have enclosed : ValueForm.ofTokens [.group .parenthesis [.literal (.bytes [65, 10])]] =
      .enclosed (.literal (.bytes [65, 10])) := by
    simp [ValueForm.ofTokens]
  rw [Source.fileItems?, read, spelledItems, ← enclosed, ← target, ← own, ← bare [65, 10],
    ← bare [97]]
  rfl

/-- A constant of the family as a member. -/
def spelledMember (ident literal : String) : Constant :=
  ⟨ident, literal, [], true, none⟩

/-- The family that the source declares. -/
def spelledFamily : Declaration :=
  { typeName := "A", underlying := "&'static [u8]", kind := .bytes, stored := "Vec<u8>"
    members := [spelledMember "B" "b\"A\\n\"", spelledMember "C" "b\"A\\n\"",
      spelledMember "D" "b\"a\""]
    options := .plain "A" }

theorem scan_spellings :
    Declaration.scan .default "reader" spellings = .ok [spelledFamily] := by
  unfold Declaration.scan
  rw [fileItems?_spellings]
  rfl

theorem isTextual_spellings : IsTextual spelledItems spelledFamily := by
  intro item listed _ _
  simp only [spelledItems, List.mem_cons, List.not_mem_nil, reduceCtorEq, Item.constant.injEq,
    or_false, false_or] at listed
  rcases listed with rfl | rfl | rfl <;> rfl

/-- A zero and a digit behind it stay apart. Two spellings of the same bytes give the same literal,
and other bytes another one. -/
theorem literals_are_faithful_spellings :
    literal? (Text.quotedBytes [0, 55] ++ [';']) = some (.bytes [0, 55], [';']) ∧
      literal? (Text.quoted ['\x00', '7'] ++ [';']) = some (.string ['\x00', '7'], [';']) ∧
    ∃ first second third, spelledFamily.members = [first, second, third] ∧
      IsValueOf spelledItems spelledFamily first (.bytes [65, 10]) ∧
      IsValueOf spelledItems spelledFamily second (.bytes [65, 10]) ∧
      IsValueOf spelledItems spelledFamily third (.bytes [97]) ∧
      first.literal = second.literal ∧ second.literal ≠ third.literal ∧
      ∀ member ∈ spelledFamily.members, ∃ value,
        IsValueOf spelledItems spelledFamily member value ∧
          literal? member.literal.toList = some (value, []) := by
  obtain ⟨items, read, faithful⟩ := literals_are_faithful.2.2 scan_spellings
  cases fileItems?_spellings.symm.trans read
  obtain ⟨same, denoting⟩ := faithful spelledFamily List.mem_cons_self
  have first : IsValueOf spelledItems spelledFamily (spelledMember "B" "b\"A\\n\"")
      (.bytes [65, 10]) := ⟨_, .tail _ (.head _), rfl, rfl⟩
  have second : IsValueOf spelledItems spelledFamily (spelledMember "C" "b\"A\\n\"")
      (.bytes [65, 10]) := ⟨_, .tail _ (.tail _ (.head _)), rfl, rfl⟩
  have third : IsValueOf spelledItems spelledFamily (spelledMember "D" "b\"a\"")
      (.bytes [97]) := ⟨_, .tail _ (.tail _ (.tail _ (.head _))), rfl, rfl⟩
  refine ⟨(literals_are_faithful.1 [0, 55]).2 [';'] rfl,
    literals_are_faithful.2.1 ['\x00', '7'] [';'] rfl,
    _, _, _, rfl, first, second, third, ?_, ?_, denoting isTextual_spellings⟩
  · exact (same _ (.head _) _ (.tail _ (.head _)) _ _ first second).mpr rfl
  · refine mt (same _ (.tail _ (.head _)) _ (.tail _ (.tail _ (.head _))) _ _ second third).mp ?_
    decide

end Scan

end NamedConstants
