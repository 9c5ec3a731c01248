import Mathlib.Data.List.Basic
import NamedConstants.Declaration.Basic
import NamedConstants.Proofs.Source.TypeForm
import NamedConstants.Proofs.Text.Letter

/-!
# The types of families

The supported types are the thirteen scalar names and the references to texts
and bytes, with no lifetime or the static one (`Scan.scalarForms`); parentheses
do not count.

A type is recognized by its text without blanks (`ofText?_eq_recognized?`). That
is exact but for two things. Parentheses around a slice behind a reference are
not looked through, and a lifetime runs into the name behind it, so that any
lifetime and name that spell `staticstr` together are taken for a static text.
-/

set_option autoImplicit false

namespace NamedConstants

open Source (TypeForm IsIdentifierChar)

/-! ## Blanks -/

namespace Scan

theorem isBlank_of_isIdentifierChar {c : Char} (own : IsIdentifierChar c) :
    Text.isBlank c = false := by
  rcases own with rfl | continues
  · decide
  · exact Text.isBlank_of_isIdentifierContinue continues

/-- The characters of a text that are not blank. -/
def compact (text : String) : List Char :=
  text.toList.filter fun c => !Text.isBlank c

theorem compact_append (first second : String) :
    compact (first ++ second) = compact first ++ compact second := by
  rw [compact, String.toList_append, List.filter_append]
  rfl

theorem compact_of_plain {text : String} (plain : ∀ c ∈ text.toList, IsIdentifierChar c) :
    compact text = text.toList := by
  refine List.filter_eq_self.mpr fun c own => ?_
  rw [isBlank_of_isIdentifierChar (plain c own), Bool.not_false]

/-! ## The supported types -/

/-- The scalar types that have a name. -/
def scalarWords : List (String × ScalarType) :=
  [("i8", ⟨.integer .int8, "i8"⟩), ("i16", ⟨.integer .int16, "i16"⟩),
    ("i32", ⟨.integer .int32, "i32"⟩), ("i64", ⟨.integer .int64, "i64"⟩),
    ("isize", ⟨.integer .int64, "isize"⟩),
    ("u8", ⟨.integer .uint8, "u8"⟩), ("u16", ⟨.integer .uint16, "u16"⟩),
    ("u32", ⟨.integer .uint32, "u32"⟩), ("u64", ⟨.integer .uint64, "u64"⟩),
    ("usize", ⟨.integer .uint64, "usize"⟩),
    ("f32", ⟨.float .single, "f32"⟩), ("f64", ⟨.float .double, "f64"⟩), ("bool", ⟨.bool, "bool"⟩)]

/-- The type of texts. -/
def textType : ScalarType := ⟨.string, "String"⟩

/-- The type of bytes. -/
def bytesType : ScalarType := ⟨.bytes, "Vec<u8>"⟩

/-- The supported types without parentheses. -/
def scalarForms : List (TypeForm × ScalarType) :=
  scalarWords.map (fun (word, type) => (.name word, type)) ++
    [(.reference none (.name "str"), textType),
      (.reference (some "static") (.name "str"), textType),
      (.reference none (.slice (.name "u8")), bytesType),
      (.reference (some "static") (.slice (.name "u8")), bytesType)]

/-- The form is a slice. -/
def isSlice : TypeForm → Bool
  | .slice _ => true
  | _ => false

/-- Parentheses stand around a slice behind a reference. -/
def hidesSlice : TypeForm → Bool
  | .reference _ (.enclosed inner) => isSlice inner.unwrapped
  | .enclosed inner => hidesSlice inner
  | _ => false

/-- A lifetime that is not the static one and the name behind it spell a static
text. -/
def isSplit : TypeForm → Bool
  | .reference (some lifetime) target =>
    match target.unwrapped with
    | .name word => lifetime != "static" && lifetime ++ word == "staticstr"
    | _ => false
  | .enclosed inner => isSplit inner
  | _ => false

/-- The scalar type that a type is taken for. -/
def recognized? (form : TypeForm) : Option ScalarType :=
  if hidesSlice form then none
  else if isSplit form then some textType
  else scalarForms.lookup form.bare

/-! ## Lookups -/

theorem lookup_cons_eq_ite {α β : Type} [BEq α] [LawfulBEq α] [DecidableEq α] (key first : α)
    (value : β) (others : List (α × β)) :
    ((first, value) :: others).lookup key =
      if key = first then some value else others.lookup key := by
  rw [List.lookup_cons]
  by_cases same : key = first
  · rw [if_pos same, beq_iff_eq.mpr same]
  · rw [if_neg same, beq_false_of_ne same]

theorem lookup_map_name (words : List (String × ScalarType)) (ident : String) :
    (words.map fun (word, type) => (TypeForm.name word, type)).lookup (.name ident) =
      words.lookup ident := by
  induction words with
  | nil => rfl
  | cons entry words ih =>
      have same : (TypeForm.name ident == TypeForm.name entry.1) = (ident == entry.1) := by
        rw [Bool.eq_iff_iff, beq_iff_eq, beq_iff_eq, TypeForm.name.injEq]
      rw [List.map_cons, List.lookup_cons, List.lookup_cons, same, ih]

theorem lookup_map_name_of_ne (words : List (String × ScalarType)) {form : TypeForm}
    (unnamed : ∀ ident, form ≠ .name ident) :
    (words.map fun (word, type) => (TypeForm.name word, type)).lookup form = none := by
  rw [List.lookup_eq_none_iff]
  intro entry listed
  obtain ⟨word, _, rfl⟩ := List.mem_map.mp listed
  exact bne_iff_ne.mpr (unnamed word.1)

theorem lookup_scalarForms_name {ident : String} :
    scalarForms.lookup (.name ident) = scalarWords.lookup ident := by
  rw [scalarForms, List.lookup_append, lookup_map_name]
  exact Option.or_none

/-- The supported references are those to texts and to bytes. -/
theorem lookup_scalarForms_reference (lifetime : Option String) (target : TypeForm) :
    scalarForms.lookup (.reference lifetime target) =
      if lifetime = none ∨ lifetime = some "static" then
        if target = .name "str" then some textType
        else if target = .slice (.name "u8") then some bytesType
        else none
      else none := by
  rw [scalarForms, List.lookup_append, lookup_map_name_of_ne _ fun _ => TypeForm.noConfusion,
    Option.none_or]
  simp only [lookup_cons_eq_ite, List.lookup_nil, TypeForm.reference.injEq]
  grind

/-- The texts that are no names, without blanks and without the mark in front. -/
theorem lookup_table_reference (rest : List Char) :
    ScalarType.table.lookup (String.ofList ('&' :: rest)) =
      if rest = "str".toList ∨ rest = "'staticstr".toList then some textType
      else if rest = "[u8]".toList ∨ rest = "'static[u8]".toList then some bytesType
      else none := by
  have words : scalarWords.lookup (String.ofList ('&' :: rest)) = none := by
    refine List.lookup_eq_none_iff.mpr fun entry listed => bne_iff_ne.mpr fun same => ?_
    have first : entry.1.toList.head? = some '&' := by rw [← same, String.toList_ofList]; rfl
    exact absurd first ((by decide :
      ∀ entry ∈ scalarWords, entry.1.toList.head? ≠ some '&') entry listed)
  have split : ScalarType.table = scalarWords ++
      [(String.ofList ('&' :: "str".toList), textType),
        (String.ofList ('&' :: "'staticstr".toList), textType),
        (String.ofList ('&' :: "[u8]".toList), bytesType),
        (String.ofList ('&' :: "'static[u8]".toList), bytesType)] :=
    rfl
  have same (other : List Char) :
      String.ofList ('&' :: rest) = String.ofList ('&' :: other) ↔ rest = other := by
    rw [String.ofList_inj, List.cons.injEq]
    exact and_iff_right rfl
  rw [split, List.lookup_append, words, Option.none_or]
  simp only [lookup_cons_eq_ite, List.lookup_nil, same]
  generalize "str".toList = str, "'staticstr".toList = staticStr
  generalize "[u8]".toList = bytes, "'static[u8]".toList = staticBytes
  grind

/-! ## Texts of references -/

open Source.TypeForm.text? (lifetimeText)

/-- The lifetime of a reference without blanks. -/
def lifetimeChars : Option String → List Char
  | some lifetime => '\'' :: lifetime.toList
  | none => []

variable {lifetime : Option String} {word : String}

theorem ofText?_reference (plain : ∀ name ∈ lifetime, ∀ c ∈ name.toList, IsIdentifierChar c)
    (text : String) :
    ScalarType.ofText? ("&" ++ lifetimeText lifetime ++ text) =
      ScalarType.table.lookup (String.ofList ('&' :: (lifetimeChars lifetime ++ compact text))) := by
  have front : compact ("&" ++ lifetimeText lifetime) = '&' :: lifetimeChars lifetime := by
    cases lifetime with
    | none => rfl
    | some name =>
        have own := compact_of_plain (plain name rfl)
        rw [lifetimeText, compact_append, compact_append, compact_append, own, lifetimeChars]
        simp [compact, show Text.isBlank '&' = false by decide,
          show Text.isBlank '\'' = false by decide, show Text.isBlank ' ' = true by decide]
  have whole : ScalarType.ofText? ("&" ++ lifetimeText lifetime ++ text) =
      ScalarType.table.lookup
        (String.ofList (compact ("&" ++ lifetimeText lifetime ++ text))) :=
    rfl
  rw [whole, compact_append, front, List.cons_append]

theorem not_mem_of_plain {text : String} (plain : ∀ c ∈ text.toList, IsIdentifierChar c) :
    '\'' ∉ text.toList ∧ '[' ∉ text.toList ∧ '&' ∉ text.toList :=
  ⟨fun own => absurd (plain _ own) (by decide), fun own => absurd (plain _ own) (by decide),
    fun own => absurd (plain _ own) (by decide)⟩

/-- No reference to a reference is supported. -/
theorem ofText?_reference_of_ampersand
    (plain : ∀ name ∈ lifetime, ∀ c ∈ name.toList, IsIdentifierChar c) {text : String}
    (second : '&' ∈ compact text) :
    ScalarType.ofText? ("&" ++ lifetimeText lifetime ++ text) = none := by
  have inside : '&' ∈ lifetimeChars lifetime ++ compact text := List.mem_append_right _ second
  rw [ofText?_reference plain, lookup_table_reference, if_neg, if_neg]
  · rintro (same | same)
    · exact absurd (same ▸ inside) (by decide)
    · exact absurd (same ▸ inside) (by decide)
  · rintro (same | same)
    · exact absurd (same ▸ inside) (by decide)
    · exact absurd (same ▸ inside) (by decide)

theorem static_append : "static" ++ word = "staticstr" ↔ word = "str" := by
  rw [← String.toList_inj, ← String.toList_inj, String.toList_append]
  exact List.append_right_inj "static".toList

/-- A reference to a name is taken for one to a text if the lifetime and the name
spell it together. -/
theorem ofText?_reference_word
    (plain : ∀ name ∈ lifetime, ∀ c ∈ name.toList, IsIdentifierChar c)
    (own : ∀ c ∈ word.toList, IsIdentifierChar c) :
    ScalarType.ofText? ("&" ++ lifetimeText lifetime ++ word) =
      if lifetime.elim "static" id ++ word = "staticstr" then some textType else none := by
  obtain ⟨quote, bracket, -⟩ := not_mem_of_plain own
  rw [ofText?_reference plain, lookup_table_reference, compact_of_plain own]
  cases lifetime with
  | none =>
      have unquoted : word.toList ≠ "'staticstr".toList ∧ word.toList ≠ "[u8]".toList ∧
          word.toList ≠ "'static[u8]".toList := by
        refine ⟨fun same => ?_, fun same => ?_, fun same => ?_⟩
        · exact quote (same ▸ by decide)
        · exact bracket (same ▸ by decide)
        · exact quote (same ▸ by decide)
      simp only [lifetimeChars, List.nil_append, unquoted, or_false, if_false, Option.elim_none,
        static_append, String.toList_inj]
  | some name =>
      have split : name ++ word = "staticstr" ↔
          lifetimeChars (some name) ++ word.toList = "'staticstr".toList := by
        rw [← String.toList_inj, String.toList_append, lifetimeChars, List.cons_append]
        exact (List.cons_inj_right '\'').symm
      have closed : '[' ∉ lifetimeChars (some name) ++ word.toList := by
        rw [lifetimeChars, List.mem_append, List.mem_cons, not_or, not_or]
        exact ⟨⟨by decide, (not_mem_of_plain (plain name rfl)).2.1⟩, bracket⟩
      have unlike : lifetimeChars (some name) ++ word.toList ≠ "str".toList ∧
          lifetimeChars (some name) ++ word.toList ≠ "[u8]".toList ∧
          lifetimeChars (some name) ++ word.toList ≠ "'static[u8]".toList := by
        refine ⟨fun same => ?_, fun same => ?_, fun same => ?_⟩
        · exact absurd (List.cons.inj same).1 (by decide)
        · exact closed (same ▸ by decide)
        · exact closed (same ▸ by decide)
      simp only [unlike, false_or, or_self, if_false, Option.elim_some, id_eq, split]

theorem ofText?_reference_slice
    (plain : ∀ name ∈ lifetime, ∀ c ∈ name.toList, IsIdentifierChar c)
    (own : ∀ c ∈ word.toList, IsIdentifierChar c) :
    ScalarType.ofText? ("&" ++ lifetimeText lifetime ++ ("[" ++ word ++ "]")) =
      if (lifetime = none ∨ lifetime = some "static") ∧ word = "u8" then some bytesType
      else none := by
  have content : compact ("[" ++ word ++ "]") = '[' :: (word.toList ++ [']']) := by
    rw [compact_append, compact_append, compact_of_plain own]
    rfl
  have word_eq : word.toList ++ [']'] = "u8]".toList ↔ word = "u8" := by
    have split : "u8]".toList = "u8".toList ++ [']'] := rfl
    rw [← String.toList_inj, split]
    exact List.append_left_inj [']']
  have opened : '[' ∈ lifetimeChars lifetime ++ compact ("[" ++ word ++ "]") := by
    rw [content]
    exact List.mem_append_right _ List.mem_cons_self
  have unlike : lifetimeChars lifetime ++ compact ("[" ++ word ++ "]") ≠ "str".toList ∧
      lifetimeChars lifetime ++ compact ("[" ++ word ++ "]") ≠ "'staticstr".toList :=
    ⟨fun same => absurd (same ▸ opened) (by decide),
      fun same => absurd (same ▸ opened) (by decide)⟩
  rw [ofText?_reference plain, lookup_table_reference]
  simp only [unlike, or_self, if_false]
  rw [content]
  cases lifetime with
  | none =>
      have bytes : lifetimeChars none ++ '[' :: (word.toList ++ [']']) = "[u8]".toList ↔
          word = "u8" := by
        rw [← word_eq]
        exact List.cons_inj_right '['
      have unquoted : lifetimeChars none ++ '[' :: (word.toList ++ [']']) ≠
          "'static[u8]".toList :=
        fun same => absurd (List.cons.inj same).1 (by decide)
      simp only [bytes, unquoted, or_false, true_or, true_and]
  | some name =>
      have quoted : lifetimeChars (some name) ++ '[' :: (word.toList ++ [']']) ≠ "[u8]".toList :=
        fun same => absurd (List.cons.inj same).1 (by decide)
      have bytes : lifetimeChars (some name) ++ '[' :: (word.toList ++ [']']) =
          "'static[u8]".toList ↔ some name = some "static" ∧ word = "u8" := by
        have split : "'static[u8]".toList = '\'' :: ("static".toList ++ '[' :: "u8]".toList) := rfl
        have closed : '[' ∉ word.toList ++ [']'] := by
          rw [List.mem_append, not_or]
          exact ⟨(not_mem_of_plain own).2.1, by decide⟩
        rw [split, lifetimeChars, List.cons_append, List.cons_inj_right,
          List.append_cons_inj_of_notMem (not_mem_of_plain (plain name rfl)).2.1 closed,
          String.toList_inj, word_eq, Option.some.injEq]
        simp only [true_and]
      simp only [quoted, bytes, false_or, reduceCtorEq]

/-! ## What is recognized -/

theorem hidesSlice_reference {target : TypeForm} (unsliced : isSlice target = false) :
    hidesSlice (.reference lifetime target) = isSlice target.unwrapped := by
  cases target with
  | slice element => cases unsliced
  | name ident => rfl
  | reference own behind => rfl
  | enclosed inner => rfl
  | other => rfl

theorem text?_reference {target : TypeForm} (unsliced : isSlice target = false) :
    (TypeForm.reference lifetime target).text? =
      target.unwrapped.text?.map fun text => "&" ++ lifetimeText lifetime ++ text := by
  rw [TypeForm.text?_unwrapped]
  cases target with
  | slice element => cases unsliced
  | name ident => rfl
  | reference own behind => rfl
  | enclosed inner => rfl
  | other => rfl

theorem ofText?_word {word : String} (plain : ∀ c ∈ word.toList, IsIdentifierChar c) :
    ScalarType.ofText? word = scalarForms.lookup (.name word) := by
  have whole : ScalarType.ofText? word =
      (scalarWords ++ ScalarType.table.drop 13).lookup (String.ofList (compact word)) :=
    rfl
  have references : (ScalarType.table.drop 13).lookup word = none := by
    refine List.lookup_eq_none_iff.mpr fun entry listed => bne_iff_ne.mpr ?_
    rintro rfl
    exact (not_mem_of_plain plain).2.2
      ((by decide : ∀ entry ∈ ScalarType.table.drop 13, '&' ∈ entry.1.toList) entry listed)
  rw [whole, compact_of_plain plain, String.ofList_toList, List.lookup_append, references,
    Option.or_none, lookup_scalarForms_name]

theorem ampersand_mem_of_text? {own : Option String} {target : TypeForm} {text : String}
    (spelled : (TypeForm.reference own target).text? = some text) : '&' ∈ compact text := by
  have starts : ∃ rest, text = "&" ++ rest := by
    cases shape : isSlice target with
    | false =>
        rw [text?_reference shape] at spelled
        obtain ⟨inner, -, rfl⟩ := Option.map_eq_some_iff.mp spelled
        exact ⟨_, String.append_assoc⟩
    | true =>
        cases target with
        | slice element =>
            obtain ⟨inner, -, rfl⟩ := Option.map_eq_some_iff.mp spelled
            exact ⟨_, by simp only [String.append_assoc]; rfl⟩
        | name ident => cases shape
        | reference own behind => cases shape
        | enclosed inner => cases shape
        | other => cases shape
  obtain ⟨rest, rfl⟩ := starts
  rw [compact_append]
  exact List.mem_append_left _ (by decide)

/-- A reference to a slice is recognized exactly if it is supported. -/
theorem ofText?_reference_to_slice
    (plain : ∀ name ∈ lifetime, ∀ c ∈ name.toList, IsIdentifierChar c) {element : TypeForm}
    (own : element.IsPlain) :
    (TypeForm.reference lifetime (.slice element)).text?.bind ScalarType.ofText? =
      recognized? (.reference lifetime (.slice element)) := by
  have spelled : (TypeForm.reference lifetime (.slice element)).text? =
      element.unwrapped.text?.map fun text =>
        "&" ++ lifetimeText lifetime ++ ("[" ++ text ++ "]") := by
    rw [TypeForm.text?_unwrapped]
    simp only [← String.append_assoc]
    rfl
  have meant : recognized? (.reference lifetime (.slice element)) =
      scalarForms.lookup (.reference lifetime (.slice element.unwrapped.bare)) := by
    rw [TypeForm.bare_unwrapped]
    cases lifetime <;> rfl
  have inside := TypeForm.isPlain_unwrapped own
  rw [spelled, meant, lookup_scalarForms_reference]
  cases shape : element.unwrapped with
  | name word =>
      rw [shape] at inside
      rw [TypeForm.text?, Option.map_some, Option.bind_some, ofText?_reference_slice plain inside]
      simp only [TypeForm.bare, reduceCtorEq, if_false, TypeForm.slice.injEq,
        TypeForm.name.injEq, ite_and]
  | reference behind target =>
      have unsupported : (if lifetime = none ∨ lifetime = some "static" then
          if TypeForm.slice (TypeForm.reference behind target).bare = .name "str" then
            some textType
          else if TypeForm.slice (TypeForm.reference behind target).bare =
            .slice (.name "u8") then some bytesType
          else none
        else none) = none := by
        simp [TypeForm.bare]
      rw [unsupported]
      cases spelled : (TypeForm.reference behind target).text? with
      | none => rfl
      | some text =>
          refine ofText?_reference_of_ampersand plain ?_
          rw [compact_append, compact_append]
          exact List.mem_append_left _ (List.mem_append_right _ (ampersand_mem_of_text? spelled))
  | slice behind => simp [TypeForm.text?, TypeForm.bare]
  | other => simp [TypeForm.text?, TypeForm.bare]
  | enclosed inner => exact absurd shape (TypeForm.unwrapped_ne_enclosed element inner)

/-- Any other reference is recognized if it is supported, unless it hides a slice,
and if it is split. -/
theorem ofText?_reference_to_other
    (plain : ∀ name ∈ lifetime, ∀ c ∈ name.toList, IsIdentifierChar c) {target : TypeForm}
    (unsliced : isSlice target = false) (own : target.IsPlain) :
    (TypeForm.reference lifetime target).text?.bind ScalarType.ofText? =
      recognized? (.reference lifetime target) := by
  have inside := TypeForm.isPlain_unwrapped own
  have bare : (TypeForm.reference lifetime target).bare =
      .reference lifetime target.unwrapped.bare := by
    rw [TypeForm.bare_unwrapped, TypeForm.bare]
  rw [text?_reference unsliced, recognized?, hidesSlice_reference unsliced, bare,
    lookup_scalarForms_reference]
  cases shape : target.unwrapped with
  | name word =>
      rw [shape] at inside
      rw [TypeForm.text?, Option.map_some, Option.bind_some, ofText?_reference_word plain inside]
      cases lifetime with
      | none => simp [isSlice, isSplit, TypeForm.bare, static_append]
      | some name =>
          by_cases static : name = "static"
          · subst static
            simp [isSlice, isSplit, shape, TypeForm.bare, static_append]
          · by_cases spelled : name ++ word = "staticstr"
            · simp [isSlice, isSplit, shape, static, spelled]
            · simp [isSlice, isSplit, shape, static, spelled]
  | reference behind inner =>
      have unsplit : isSplit (.reference lifetime target) = false := by
        cases lifetime with
        | none => rfl
        | some name => rw [isSplit, shape]
      have unsupported : (if lifetime = none ∨ lifetime = some "static" then
          if (TypeForm.reference behind inner).bare = .name "str" then some textType
          else if (TypeForm.reference behind inner).bare = .slice (.name "u8") then some bytesType
          else none
        else none) = none := by
        simp [TypeForm.bare]
      rw [unsupported, unsplit]
      cases spelled : (TypeForm.reference behind inner).text? with
      | none => rfl
      | some text => exact ofText?_reference_of_ampersand plain (ampersand_mem_of_text? spelled)
  | slice element => simp [TypeForm.text?, isSlice]
  | other =>
      have unsplit : isSplit (.reference lifetime target) = false := by
        cases lifetime with
        | none => rfl
        | some name => rw [isSplit, shape]
      simp [TypeForm.text?, isSlice, TypeForm.bare, unsplit]
  | enclosed inner => exact absurd shape (TypeForm.unwrapped_ne_enclosed target inner)

/-- **What a type is taken for.** -/
theorem ofText?_eq_recognized? {form : TypeForm} (plain : form.IsPlain) :
    form.text?.bind ScalarType.ofText? = recognized? form := by
  induction form with
  | name ident => exact ofText?_word plain
  | slice element ih => rfl
  | other => rfl
  | enclosed inner ih => exact ih plain
  | reference lifetime target ih =>
      cases shape : isSlice target with
      | false => exact ofText?_reference_to_other plain.1 shape plain.2
      | true =>
          cases target with
          | slice element => exact ofText?_reference_to_slice plain.1 plain.2
          | name ident => cases shape
          | reference own behind => cases shape
          | enclosed inner => cases shape
          | other => cases shape

end Scan

end NamedConstants
