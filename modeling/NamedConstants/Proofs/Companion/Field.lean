import NamedConstants.Companion.Container
import NamedConstants.Proofs.Declaration.Scan
import NamedConstants.Proofs.Text.JoinedWords
import Mathlib.Data.List.Nodup

/-!
# The fields of a container

A field has the words of its constant as its name, joined by underscores. Two constants
have the same field exactly if their identifiers have the same words
(`Constant.fieldName_inj`), so `V1` and `V_1` have. A field in lower case is a keyword if
its constant is one word that spells a keyword in lower case, and a field in upper case
never is, but for the underscore (`Constant.fieldName_mem_keywords_iff`).

The value of a container has every member in its field exactly if no two members have the
same field, and constants that are written in the conventional upper case have fields of
their own in both cases (`fields_usable_iff`). An arbitrary family need not have them
(`fields_clash`).
-/

set_option autoImplicit false

namespace NamedConstants

/-- The words that cannot be the name of a field: those that are no identifiers in a source,
and one that later editions reserve. -/
def keywords : List String :=
  "gen" :: Source.reservedWords

/-- The letter case of the fields of a container. -/
def fieldCase (uppercase : Bool) : List Char → List Char :=
  if uppercase then Text.toUpper else Text.toLower

theorem isCasing_fieldCase (uppercase : Bool) : Text.IsCasing (fieldCase uppercase) := by
  cases uppercase with
  | false => exact Text.isCasing_toLower
  | true => exact Text.isCasing_toUpper

namespace Constant

variable {constant other : Constant}

/-- The words of the constant's field. -/
def fieldWords (uppercase : Bool) (constant : Constant) : List (List Char) :=
  Text.casedWords (fieldCase uppercase) constant.ident.toList

theorem fieldName_eq (uppercase : Bool) (constant : Constant) :
    constant.fieldName uppercase =
      String.ofList (Text.joinedWords (fieldCase uppercase) constant.ident.toList) := by
  cases uppercase with
  | false => rfl
  | true => rfl

/-- **Two constants have the same field exactly if they have the same words.** -/
theorem fieldName_inj (uppercase : Bool) :
    constant.fieldName uppercase = other.fieldName uppercase ↔
      constant.fieldWords uppercase = other.fieldWords uppercase := by
  rw [fieldName_eq, fieldName_eq, String.ofList_inj, Text.joinedWords_inj]
  rfl

/-! ## Keywords -/

/-- Every keyword has a small letter, but for the underscore. -/
theorem exists_isLower_of_mem_keywords :
    ∀ word ∈ keywords, word = "_" ∨ ∃ c ∈ word.toList, c.isLower = true := by
  have checked : ∀ word ∈ keywords, word = "_" ∨ word.toList.any Char.isLower = true := by
    decide +kernel
  exact fun word listed => (checked word listed).imp id List.any_eq_true.mp

/-- No keyword has an underscore, but for the underscore. -/
theorem underscore_not_mem_of_mem_keywords :
    ∀ word ∈ keywords, word = "_" ∨ '_' ∉ word.toList := by
  decide +kernel

theorem fieldName_eq_underscore_iff (uppercase : Bool) (constant : Constant) :
    constant.fieldName uppercase = "_" ↔ constant.ident ∈ ["_", "-", " "] := by
  have name : constant.fieldName uppercase = "_" ↔
      Text.joinedWords (fieldCase uppercase) constant.ident.toList = ['_'] := by
    have underscore : "_" = String.ofList ['_'] := rfl
    rw [fieldName_eq, underscore, String.ofList_inj]
  have ident : constant.ident ∈ ["_", "-", " "] ↔
      constant.ident.toList ∈ [['_'], ['-'], [' ']] := by
    simp only [List.mem_cons, List.not_mem_nil, or_false, ← String.toList_inj]
    rfl
  rw [name, ident, Text.joinedWords_eq_underscore_iff (isCasing_fieldCase uppercase)]

/-- In upper case the underscore is the only keyword. -/
theorem eq_underscore_of_fieldName_upper (reserved : constant.fieldName true ∈ keywords) :
    constant.fieldName true = "_" := by
  refine (exists_isLower_of_mem_keywords _ reserved).resolve_right ?_
  rintro ⟨c, inside, small⟩
  rw [fieldName, if_pos rfl, String.toList_ofList, Text.upperSnakeCase] at inside
  have large : c.isLower = false := by
    rcases Text.mem_join inside with underscore | ⟨_, listed, own⟩
    · rw [List.mem_singleton.mp underscore]
      rfl
    · obtain ⟨word, -, rfl⟩ := List.mem_map.mp listed
      exact Text.isLower_of_mem_toUpper own
  exact Bool.false_ne_true (large.symm.trans small)

/-- The identifier is a single word that spells a keyword in lower case. -/
def SpellsKeyword (constant : Constant) : Prop :=
  (∃ word, Text.identifierWords constant.ident.toList = [word]) ∧
    String.ofList (Text.toLower constant.ident.toList) ∈ keywords

/-- The field of a single word in lower case. -/
theorem fieldName_of_single {word : List Text.Cluster}
    (single : Text.identifierWords constant.ident.toList = [word]) :
    constant.fieldName false = String.ofList (Text.toLower constant.ident.toList) := by
  rw [fieldName_eq, Text.joinedWords_of_single single]
  rfl

/-- **A field is a keyword exactly if it is in lower case and the identifier spells a
keyword, or if the identifier is a mere separator.** -/
theorem fieldName_mem_keywords_iff (uppercase : Bool) (constant : Constant) :
    constant.fieldName uppercase ∈ keywords ↔
      constant.ident ∈ ["_", "-", " "] ∨ uppercase = false ∧ constant.SpellsKeyword := by
  rw [← fieldName_eq_underscore_iff uppercase]
  constructor
  · intro reserved
    cases uppercase with
    | true => exact Or.inl (eq_underscore_of_fieldName_upper reserved)
    | false =>
        rcases underscore_not_mem_of_mem_keywords _ reserved with underscore | whole
        · exact Or.inl underscore
        · rw [fieldName_eq, String.toList_ofList] at whole
          obtain ⟨word, single⟩ := Text.exists_word_of_underscore_not_mem whole
          rw [fieldName_of_single single] at reserved
          exact Or.inr ⟨rfl, ⟨word, single⟩, reserved⟩
  · rintro (underscore | ⟨rfl, ⟨word, single⟩, reserved⟩)
    · rw [underscore]
      decide
    · rw [fieldName_of_single single]
      exact reserved

/-! ## Conventional identifiers -/

/-- The identifier is written in ASCII and is its own name in upper case. -/
structure IsConventional (constant : Constant) : Prop where
  ascii : ∀ c ∈ constant.ident.toList, c.toNat < 0x80
  upper : Text.upperSnakeCase constant.ident.toList = constant.ident.toList

instance : DecidablePred IsConventional := fun constant =>
  decidable_of_iff ((constant.ident.toList.all fun c => c.toNat < 0x80) = true ∧
      Text.upperSnakeCase constant.ident.toList = constant.ident.toList)
    (by
      simp only [List.all_eq_true, decide_eq_true_eq]
      exact ⟨fun own => ⟨own.1, own.2⟩, fun own => ⟨own.ascii, own.upper⟩⟩)

namespace IsConventional

/-- The field tells the identifier in either case. -/
theorem ident_eq (own : constant.IsConventional) (own' : other.IsConventional) {uppercase : Bool}
    (same : constant.fieldName uppercase = other.fieldName uppercase) :
    constant.ident = other.ident := by
  have names := String.ofList_inj.mp same
  rw [← String.toList_inj]
  cases uppercase with
  | true =>
      rw [if_pos rfl, if_pos rfl, own.upper, own'.upper] at names
      exact names
  | false =>
      rw [if_neg Bool.false_ne_true, if_neg Bool.false_ne_true] at names
      rw [← own.upper, ← own'.upper, ← Text.toUpper_snakeCase own.ascii,
        ← Text.toUpper_snakeCase own'.ascii, names]

/-- The only conventional separator is the underscore, and it spells a keyword. -/
theorem ident_not_mem_separators (own : constant.IsConventional)
    (plain : String.ofList (Text.toLower constant.ident.toList) ∉ keywords) :
    constant.ident ∉ ["_", "-", " "] := by
  intro separator
  have upper := own.upper
  simp only [List.mem_cons, List.not_mem_nil, or_false] at separator
  rcases separator with underscore | hyphen | blank
  · rw [underscore] at plain
    exact plain (by decide)
  · rw [hyphen] at upper
    exact absurd upper (by decide)
  · rw [blank] at upper
    exact absurd upper (by decide)

end IsConventional

end Constant

namespace Companion

variable {declaration : Declaration}

/-! ## The value of a container -/

/-- The names of the fields, in the order of the members. -/
def fieldNames (declaration : Declaration) : List String :=
  declaration.members.map (fieldOf declaration)

/-- The fields of the container's value with what is assigned to them. -/
def assignments (declaration : Declaration) : List (String × String) :=
  declaration.members.map fun member =>
    (fieldOf declaration member, wrapped declaration member.ident)

theorem map_fst_assignments (declaration : Declaration) :
    (assignments declaration).map Prod.fst = fieldNames declaration := by
  rw [assignments, List.map_map]
  rfl

/-- The line of an assignment. -/
def assignmentLine (assignment : String × String) : String :=
  assignment.1 ++ ": " ++ assignment.2 ++ ","

/-- The lines of a container end with its assignments. -/
theorem exists_containerLines_assignments (declaration : Declaration) :
    ∃ above, containerLines declaration =
      above ++ ((assignments declaration).map assignmentLine).map indented ++ ["\x7d);", ""] := by
  have lines : declaration.members.map (fieldValueLine declaration) =
      (assignments declaration).map assignmentLine := by
    rw [assignments, List.map_map]
    rfl
  have regroup (front body : Lines) (opening closing last : String) :
      front ++ ([opening] ++ body ++ [closing]) ++ [last] =
        front ++ [opening] ++ body ++ [closing, last] := by
    simp only [List.append_assoc, List.cons_append, List.nil_append]
  rw [containerLines, enclosed, lines]
  exact ⟨_, regroup _ _ _ _ _⟩

/-- The member is read back from its field of the container's value. -/
def Denotes (declaration : Declaration) (member : Constant) : Prop :=
  (assignments declaration).lookup (fieldOf declaration member) =
    some (wrapped declaration member.ident)

instance (declaration : Declaration) : DecidablePred (Denotes declaration) := fun member =>
  inferInstanceAs (Decidable ((assignments declaration).lookup (fieldOf declaration member) =
    some (wrapped declaration member.ident)))

theorem wrapped_inj {ident other : String} :
    wrapped declaration ident = wrapped declaration other ↔ ident = other := by
  have stored : declaration.storedExpression ident = declaration.storedExpression other ↔
      ident = other := by
    unfold Declaration.storedExpression
    split
    · exact String.append_left_inj _
    · exact String.append_left_inj _
    · exact Iff.rfl
  rw [wrapped, wrapped, String.append_left_inj, String.append_right_inj, stored]

/-- A pair of a list without repeated keys is found at its key. -/
theorem lookup_of_mem {entries : List (String × String)} {key value : String}
    (distinct : (entries.map Prod.fst).Nodup) (listed : (key, value) ∈ entries) :
    entries.lookup key = some value := by
  induction entries with
  | nil => cases listed
  | cons entry entries ih =>
      obtain ⟨absent, others⟩ := List.nodup_cons.mp distinct
      rw [List.lookup_cons]
      rcases List.mem_cons.mp listed with rfl | later
      · rw [beq_self_eq_true]
      · have other : key ≠ entry.1 := by
          rintro rfl
          exact absent (List.mem_map.mpr ⟨(entry.1, value), later, rfl⟩)
        rw [beq_false_of_ne other]
        exact ih others later

section Distinct

variable (distinct : (declaration.members.map Constant.ident).Nodup)

include distinct

/-- Fields are different if they tell the identifiers. -/
theorem nodup_fieldNames (tells : ∀ member ∈ declaration.members,
    ∀ other ∈ declaration.members, fieldOf declaration member = fieldOf declaration other →
      member.ident = other.ident) : (fieldNames declaration).Nodup := by
  refine List.Nodup.map_on (fun member listed other listed' same => ?_)
    (List.Nodup.of_map Constant.ident distinct)
  exact List.inj_on_of_nodup_map distinct listed listed' (tells member listed other listed' same)

/-- **Every member is in its field exactly if the fields are different.** -/
theorem denotes_iff_nodup :
    (∀ member ∈ declaration.members, Denotes declaration member) ↔
      (fieldNames declaration).Nodup := by
  constructor
  · intro denotes
    refine nodup_fieldNames distinct fun member listed other listed' same => ?_
    have found := denotes member listed
    rw [Denotes, same, denotes other listed', Option.some_inj, wrapped_inj] at found
    exact found.symm
  · intro different member listed
    rw [← map_fst_assignments] at different
    exact lookup_of_mem different (List.mem_map_of_mem listed)

/-- **The fields of a container are different exactly if the words of the members are, and
then every member is in the field that is assigned to it. They are usable unless a member
spells a keyword in lower case or is a mere separator. Conventional identifiers have usable
fields of their own.** -/
theorem fields_usable_iff :
    (∃ above, containerLines declaration =
      above ++ ((assignments declaration).map assignmentLine).map indented ++ ["\x7d);", ""]) ∧
    ((fieldNames declaration).Nodup ↔
      (declaration.members.map
        (Constant.fieldWords declaration.options.uppercaseFields)).Nodup) ∧
    ((∀ member ∈ declaration.members, Denotes declaration member) ↔
      (fieldNames declaration).Nodup) ∧
    (∀ member, fieldOf declaration member ∈ keywords ↔
      member.ident ∈ ["_", "-", " "] ∨
        declaration.options.uppercaseFields = false ∧ member.SpellsKeyword) ∧
    ((∀ member ∈ declaration.members, member.IsConventional ∧
        String.ofList (Text.toLower member.ident.toList) ∉ keywords) →
      (fieldNames declaration).Nodup ∧
        ∀ field ∈ fieldNames declaration, field ∉ keywords) := by
  have reserved (member : Constant) :=
    member.fieldName_mem_keywords_iff declaration.options.uppercaseFields
  refine ⟨exists_containerLines_assignments declaration, ?_, denotes_iff_nodup distinct, reserved,
    fun conventional => ⟨?_, ?_⟩⟩
  · rw [fieldNames, List.Nodup, List.Nodup, List.pairwise_map, List.pairwise_map]
    exact List.Pairwise.iff fun member other => not_congr (Constant.fieldName_inj _)
  · exact nodup_fieldNames distinct fun member listed other listed' same =>
      (conventional member listed).1.ident_eq (conventional other listed').1 same
  · intro field listed keyword
    obtain ⟨member, own, rfl⟩ := List.mem_map.mp listed
    obtain ⟨spelled, plain⟩ := conventional member own
    rcases (reserved member).mp keyword with separator | ⟨_, _, lower⟩
    · exact spelled.ident_not_mem_separators plain separator
    · exact plain lower

end Distinct

/-- A family of bytes with the given constants, numbered from one. -/
def bytesNamed (uppercase : Bool) (idents : List String) : Declaration :=
  { typeName := "A", underlying := "u8", kind := .integer .uint8, stored := "u8"
    members := idents.zipIdx.map fun (ident, i) => ⟨ident, toString (i + 1), [], true, none⟩
    options := { Options.plain "A" with uppercaseFields := uppercase } }

/-- Conventional constants have usable fields. -/
theorem fields_of_conventional :
    let colors := bytesNamed false ["RED", "DARK_RED", "V_1"]
    (colors.members.map Constant.ident).Nodup ∧
      fieldNames colors = ["red", "dark_red", "v_1"] ∧ (fieldNames colors).Nodup ∧
      ∀ field ∈ fieldNames colors, field ∉ keywords := by
  intro colors
  have distinct : (colors.members.map Constant.ident).Nodup := by decide +kernel
  have conventional : ∀ member ∈ colors.members, member.IsConventional ∧
      String.ofList (Text.toLower member.ident.toList) ∉ keywords := by decide +kernel
  exact ⟨distinct, by decide +kernel, (fields_usable_iff distinct).2.2.2.2 conventional⟩

/-- A source with a constant that spells a keyword and two constants of the same words. -/
def clashingSource : String :=
  "type A = u8;\nconst TYPE: A = 1;\nconst V1: A = 2;\nconst V_1: A = 3;\n"

/-- The tokens of a constant of the family. -/
def constantTokens (ident : String) (digit : Char) : List Source.Token :=
  [.word "const" false, .word ident false, .mark ':' false, .word "A" false, .mark '=' false,
    .literal (.integer [digit]), .mark ';' false]

theorem scan_clashingSource :
    Declaration.scan .default "reader" clashingSource =
      .ok [bytesNamed false ["TYPE", "V1", "V_1"]] := by
  have read : Source.fileTokens? clashingSource.toList = some
      ([.word "type" false, .word "A" false, .mark '=' false, .word "u8" false, .mark ';' false] ++
        constantTokens "TYPE" '1' ++ constantTokens "V1" '2' ++ constantTokens "V_1" '3') := by
    rfl
  have byte := @Source.TypeForm.ofTokens_word "u8" (by decide)
  have own := @Source.TypeForm.ofTokens_word "A" (by decide)
  have value (digit : Char) := Source.ValueForm.ofTokens_literal (.integer [digit])
  have items : Source.fileItems? clashingSource.toList = some [.alias ⟨[], "A", .name "u8"⟩,
      .constant ⟨[], "TYPE", .name "A", .literal (.integer ['1'])⟩,
      .constant ⟨[], "V1", .name "A", .literal (.integer ['2'])⟩,
      .constant ⟨[], "V_1", .name "A", .literal (.integer ['3'])⟩] := by
    rw [Source.fileItems?, read, ← byte, ← own, ← value '1', ← value '2', ← value '3']
    rfl
  unfold Declaration.scan
  rw [items]
  rfl

/-- Distinct constants share a field in either case, one of them is in no field, and
another one has a keyword as its field. -/
theorem fields_clash :
    let clashing (uppercase : Bool) := bytesNamed uppercase ["TYPE", "V1", "V_1"]
    Declaration.scan .default "reader" clashingSource = .ok [clashing false] ∧
      ((clashing false).members.map Constant.ident).Nodup ∧
      fieldNames (clashing false) = ["type", "v_1", "v_1"] ∧
      fieldNames (clashing true) = ["TYPE", "V_1", "V_1"] ∧
      (∃ member ∈ (clashing false).members, ¬Denotes (clashing false) member) ∧
      (∃ field ∈ fieldNames (clashing false), field ∈ keywords) ∧
      ∀ uppercase, ¬(fieldNames (clashing uppercase)).Nodup := by
  intro clashing
  refine ⟨scan_clashingSource, ?_, ?_, ?_, ?_, ?_, ?_⟩
  · decide +kernel
  · decide +kernel
  · decide +kernel
  · decide +kernel
  · decide +kernel
  · decide +kernel

end Companion

end NamedConstants
