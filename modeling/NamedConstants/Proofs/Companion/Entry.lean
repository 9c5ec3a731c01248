import NamedConstants.Companion.Table
import NamedConstants.Proofs.Source.StringLiteral
import NamedConstants.Proofs.Text.Piece

/-!
# The entries of a table

A line of a table is read back as the entry it was written from: the identifier
of the constant, the canonical name, the further names and whether the member is
marked (`readEntryText?_entryLine`). The names are read as string literals, so it
does not matter which characters they hold. The identifier is read up to what
cannot stand in one.
-/

set_option autoImplicit false

namespace NamedConstants

namespace Companion

variable {declaration : Declaration}

/-! ## Reading an entry -/

/-- The character may stand in the identifier of a constant. -/
def isIdentChar (c : Char) : Bool :=
  c != ' ' && c != '.' && c != '\n'

/-- Reads a string literal. -/
def readName? (text : List Char) : Option (String × List Char) :=
  match Source.literal? text with
  | some (.string name, rest) => some (String.ofList name, rest)
  | _ => none

/-- Reads string literals with commas between them. The first argument bounds
their number. -/
def readNames? : Nat → List Char → Option (List String × List Char)
  | 0, _ => none
  | count + 1, text => do
    let (name, rest) ← readName? text
    match Text.after? ", ".toList rest with
    | some rest => do
      let (names, rest) ← readNames? count rest
      return (name :: names, rest)
    | none => return ([name], rest)

/-- What follows the call that turns a constant into an owned value. -/
def afterOwning (text : List Char) : List Char :=
  ((Text.after? ".to_string()".toList text).or (Text.after? ".to_vec()".toList text)).getD text

/-- Reads the further names of an entry, if it has any. -/
def readAliases? (text : List Char) : Option (List String × List Char) :=
  match Text.after? ".with_aliases(&[".toList text with
  | none => some ([], text)
  | some rest => do
    let (names, rest) ← readNames? rest.length rest
    return (names, ← Text.after? "])".toList rest)

/-- Reads the mark of an entry. -/
def readMark (text : List Char) : Bool × List Char :=
  match Text.after? ".invalid()".toList text with
  | some rest => (true, rest)
  | none => (false, text)

/-- What stands in front of the constant in an entry. -/
def entryOpening (wrapper : String) : String :=
  "::enumforge_core::IndexEntry::new(" ++ wrapper ++ " \x7b raw: "

/-- Reads the entry of a table of the given wrapper. -/
def readEntryText? (wrapper line : String) : Option Entry := do
  let rest ← Text.after? (entryOpening wrapper).toList line.toList
  let ident := rest.takeWhile isIdentChar
  let rest ← Text.after? " \x7d, ".toList (afterOwning (rest.dropWhile isIdentChar))
  let (name, rest) ← readName? rest
  let rest ← Text.after? ")".toList rest
  let (aliases, rest) ← readAliases? rest
  let (isMarked, rest) := readMark rest
  if rest = [','] then return ⟨String.ofList ident, name, aliases, !isMarked⟩ else none

/-! ## What is written is read -/

theorem readName?_quoted (name : String) {rest : List Char}
    (ends : Source.startsWord rest = false) :
    readName? (Text.quoted name.toList ++ rest) = some (name, rest) := by
  rw [readName?, Source.literal?_quoted name.toList ends]
  dsimp only
  rw [String.ofList_toList]

/-- The spelling of names with commas between them. -/
def spelledNames (names : List String) : List Char :=
  (", ".intercalate (names.map Text.quotedString)).toList

theorem spelledNames_singleton (name : String) : spelledNames [name] = Text.quoted name.toList := by
  rw [spelledNames, List.map_singleton, String.intercalate_singleton, Text.quotedString,
    String.toList_ofList]

theorem spelledNames_cons_cons (name next : String) (others : List String) :
    spelledNames (name :: next :: others) =
      Text.quoted name.toList ++ (", ".toList ++ spelledNames (next :: others)) := by
  rw [spelledNames, spelledNames, String.toList_intercalate, String.toList_intercalate,
    List.map_cons, List.map_cons, List.map_cons, List.map_cons, List.intercalate_cons_cons,
    Text.quotedString, String.toList_ofList, List.append_assoc]

/-- Names with commas between them are read as they were written. -/
theorem readNames?_spelledNames {names : List String} (filled : names ≠ []) {count : Nat}
    (enough : names.length ≤ count) {rest : List Char} (ends : Source.startsWord rest = false)
    (closed : Text.after? ", ".toList rest = none) :
    readNames? count (spelledNames names ++ rest) = some (names, rest) := by
  induction names generalizing count with
  | nil => exact absurd rfl filled
  | cons name names ih =>
      cases count with
      | zero => cases enough
      | succ count =>
          cases names with
          | nil =>
              rw [spelledNames_singleton, readNames?, readName?_quoted name ends]
              simp only [Option.bind_eq_bind, Option.bind_some, closed]
              rfl
          | cons next others =>
              have later := ih (List.cons_ne_nil next others) (Nat.le_of_succ_le_succ enough)
              rw [spelledNames_cons_cons, List.append_assoc, List.append_assoc, readNames?,
                readName?_quoted name rfl]
              simp only [Option.bind_eq_bind, Option.bind_some, Text.after?_append, later]
              rfl

theorem length_le_spelledNames (names : List String) :
    names.length ≤ (spelledNames names).length := by
  induction names with
  | nil => exact Nat.zero_le _
  | cons name names ih =>
      cases names with
      | nil =>
          rw [spelledNames_singleton, Text.quoted, List.length_append, List.length_singleton,
            List.length_singleton]
          exact Nat.le_add_left 1 _
      | cons next others =>
          rw [spelledNames_cons_cons, List.length_append, List.length_append, List.length_cons]
          simp only [Text.quoted, List.length_append, List.length_singleton]
          omega

theorem toList_aliasesCall (aliases : List String) :
    (aliasesCall aliases).toList =
      if aliases.isEmpty then []
      else ".with_aliases(&[".toList ++ spelledNames aliases ++ "])".toList := by
  rw [aliasesCall]
  split
  · rfl
  · rw [String.toList_append, String.toList_append, spelledNames]

/-- Further names are read as they were written. -/
theorem readAliases?_aliasesCall (aliases : List String) {rest : List Char}
    (ends : Text.after? ".with_aliases(&[".toList rest = none) :
    readAliases? ((aliasesCall aliases).toList ++ rest) = some (aliases, rest) := by
  rw [toList_aliasesCall, readAliases?]
  cases aliases with
  | nil => simp only [List.isEmpty_nil, if_true, List.nil_append, ends]
  | cons first others =>
      have enough : (first :: others).length ≤
          (spelledNames (first :: others) ++ ("])".toList ++ rest)).length :=
        Nat.le_trans (length_le_spelledNames _) (List.length_append ▸ Nat.le_add_right _ _)
      simp only [List.isEmpty_cons, Bool.false_eq_true, if_false, List.append_assoc,
        Text.after?_append]
      rw [readNames?_spelledNames (List.cons_ne_nil first others) enough rfl rfl]
      simp only [Option.bind_eq_bind, Option.bind_some, Text.after?_append]
      rfl

/-- The call that turns a constant into an owned value. -/
def owningCall : Kind → String
  | .string => ".to_string()"
  | .bytes => ".to_vec()"
  | _ => ""

theorem owningCall_cases (kind : Kind) :
    owningCall kind = "" ∨ owningCall kind = ".to_string()" ∨ owningCall kind = ".to_vec()" := by
  cases kind <;> simp [owningCall]

theorem storedExpression_eq (ident : String) :
    declaration.storedExpression ident = ident ++ owningCall declaration.kind := by
  rw [Declaration.storedExpression]
  cases declaration.kind <;> simp [owningCall]

/-- What turns a constant into an owned value is not a part of its identifier. -/
theorem afterOwning_owningCall (kind : Kind) (rest : List Char) :
    let text := (owningCall kind).toList ++ (" \x7d, ".toList ++ rest)
    text.takeWhile isIdentChar = [] ∧ text.dropWhile isIdentChar = text ∧
      afterOwning text = " \x7d, ".toList ++ rest := by
  rcases owningCall_cases kind with call | call | call
  · rw [call]
    exact ⟨rfl, rfl, rfl⟩
  · rw [call]
    exact ⟨rfl, rfl, rfl⟩
  · rw [call]
    exact ⟨rfl, rfl, rfl⟩

/-- The mark of an entry. -/
def markCall (isValid : Bool) : String :=
  if isValid then "" else ".invalid()"

theorem readMark_markCall (isValid : Bool) :
    readMark ((markCall isValid).toList ++ [',']) = (!isValid, [',']) := by
  cases isValid with
  | false => rfl
  | true => rfl

theorem toList_entryLine (entry : Entry) :
    (entryLine declaration entry).toList =
      (entryOpening declaration.wrapper).toList ++ (entry.ident.toList ++
        ((owningCall declaration.kind).toList ++ (" \x7d, ".toList ++
          (Text.quoted entry.name.toList ++ (")".toList ++ ((aliasesCall entry.aliases).toList ++
            ((markCall entry.isValid).toList ++ [','])))))))  := by
  have tail : " \x7d, ".toList = " \x7d".toList ++ ", ".toList := rfl
  have name : (Text.quotedString entry.name).toList = Text.quoted entry.name.toList :=
    String.toList_ofList
  have opening : entryOpening declaration.wrapper =
      core ++ "::IndexEntry::new(" ++ declaration.wrapper ++ " \x7b raw: " := rfl
  rw [entryLine, wrapped, storedExpression_eq, opening, tail, ← name, ← markCall]
  simp only [String.toList_append, List.append_assoc]
  rfl

/-- **An entry is read as it was written**, whatever its names are. -/
theorem readEntryText?_entryLine {entry : Entry}
    (plain : ∀ c ∈ entry.ident.toList, isIdentChar c = true) :
    readEntryText? declaration.wrapper (entryLine declaration entry) = some entry := by
  obtain ⟨none, whole, owned⟩ := afterOwning_owningCall declaration.kind
    (Text.quoted entry.name.toList ++ (")".toList ++ ((aliasesCall entry.aliases).toList ++
      ((markCall entry.isValid).toList ++ [',']))))
  have closed : Text.after? ".with_aliases(&[".toList
      ((markCall entry.isValid).toList ++ [',']) = Option.none := by
    cases entry.isValid with
    | false => rfl
    | true => rfl
  rw [readEntryText?, toList_entryLine, Text.after?_append]
  simp only [Option.bind_eq_bind, Option.bind_some]
  rw [List.takeWhile_append_of_pos plain, List.dropWhile_append_of_pos plain, none, whole, owned,
    Text.after?_append, Option.bind_some, readName?_quoted entry.name rfl]
  simp only [Option.bind_some, Text.after?_append, readAliases?_aliasesCall entry.aliases closed,
    readMark_markCall, List.append_nil, String.ofList_toList, if_true, Bool.not_not]
  rfl

end Companion

end NamedConstants
