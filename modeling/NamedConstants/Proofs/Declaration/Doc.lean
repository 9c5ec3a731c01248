import NamedConstants.Declaration.Doc
import NamedConstants.Proofs.Text.Blank
import NamedConstants.Proofs.Text.Letter
import NamedConstants.Proofs.Text.Piece

/-!
# Names in the documentation of a constant

The first line of a documentation lists words between commas. Without the word that marks
a constant among them, every word is an alias as it stands. With it the constant is
invalid, and the letters of this word are deleted from the whole list
(`aliasesOf_marked`): the aliases are the other words exactly if none of them has these
letters inside (`ofLines_wordList`).
-/

set_option autoImplicit false

namespace NamedConstants

/-- A word of a list, which may be empty, and the blanks around it. -/
structure ListedWord where
  before : List Char
  word : List Char
  after : List Char
  blank_before : ∀ c ∈ before, Text.isBlank c = true
  isWordChar : ∀ c ∈ word, MemberDoc.isWordChar c = true
  blank_after : ∀ c ∈ after, Text.isBlank c = true

/-- The word as it stands in the list. -/
def ListedWord.text (listed : ListedWord) : List Char :=
  listed.before ++ (listed.word ++ listed.after)

namespace MemberDoc

/-- A line that lists words between commas, with a comment behind a semicolon or without
one. -/
def wordList (words : List ListedWord) (comment : Option (List Char)) : List Char :=
  Text.join [','] (words.map ListedWord.text) ++ (comment.map (';' :: ·)).getD []

/-! ## Characters of words -/

theorem isBlank_of_isWordChar {c : Char} (own : isWordChar c = true) : Text.isBlank c = false := by
  rw [isWordChar, Bool.or_eq_true, beq_iff_eq] at own
  rcases own with letter | rfl
  · exact Text.isBlank_of_isAlphanumeric letter
  · decide

theorem isWordChar_of_isBlank {c : Char} (blank : Text.isBlank c = true) : isWordChar c = false :=
  Bool.eq_false_iff.mpr fun own => by simp [isBlank_of_isWordChar own] at blank

theorem isWordChar_of_mem_invalidWord {c : Char} (listed : c ∈ invalidWord) :
    isWordChar c = true := by
  have letters : invalidWord.all isWordChar = true := by decide +kernel
  exact List.all_eq_true.mp letters c listed

theorem not_mem_invalidWord_of_isBlank {c : Char} (blank : Text.isBlank c = true) :
    c ∉ invalidWord := fun listed => by
  have own := isWordChar_of_mem_invalidWord listed
  rw [isWordChar_of_isBlank blank] at own
  exact Bool.false_ne_true own

theorem invalidWord_ne_nil : invalidWord ≠ [] := by decide

/-- A mark that is no part of words does not stand in a list of them. -/
theorem not_mem_text {mark : Char} (visible : Text.isBlank mark = false)
    (other : isWordChar mark = false) (listed : ListedWord) : mark ∉ listed.text := by
  intro inside
  simp only [ListedWord.text, List.mem_append] at inside
  rcases inside with before | word | after
  · exact absurd (listed.blank_before mark before) (by simp [visible])
  · exact absurd (listed.isWordChar mark word) (by simp [other])
  · exact absurd (listed.blank_after mark after) (by simp [visible])

/-! ## Names without the marker -/

/-- The names of a list when the letters of the marker are deleted from it. -/
def strippedNames (names : List (List Char)) : List (List Char) :=
  (names.map (Text.replaceAll invalidWord [])).filter fun name => !name.isEmpty

/-- The names of a list that are neither empty nor the marker. -/
def properNames (names : List (List Char)) : List (List Char) :=
  names.filter fun name => !name.isEmpty && name != invalidWord

theorem strippedNames_append (front rest : List (List Char)) :
    strippedNames (front ++ rest) = strippedNames front ++ strippedNames rest := by
  rw [strippedNames, List.map_append, List.filter_append]
  rfl

theorem properNames_append (front rest : List (List Char)) :
    properNames (front ++ rest) = properNames front ++ properNames rest :=
  List.filter_append front rest

/-- What is left of one name. -/
theorem strippedNames_singleton {name : List Char}
    (intact : invalidWord <:+: name → name = invalidWord) :
    strippedNames [name] = properNames [name] := by
  by_cases marker : name = invalidWord
  · rw [marker]
    decide
  · have same : Text.replaceAll invalidWord [] name = name :=
      Text.replaceAll_of_absent [] (mt intact marker)
    have proper : (name != invalidWord) = true := bne_iff_ne.mpr marker
    simp only [strippedNames, properNames, List.map_cons, List.map_nil, same, List.filter_cons,
      List.filter_nil, proper, Bool.and_true]

theorem flatten_strippedNames (names : List (List Char)) :
    (strippedNames names).flatten = (names.map (Text.replaceAll invalidWord [])).flatten :=
  List.flatten_filter_not_isEmpty

/-- A name with the marker inside loses letters. -/
theorem length_strippedNames_lt {name : List Char} (inside : invalidWord <:+: name)
    (other : name ≠ invalidWord) :
    (strippedNames [name]).flatten.length < (properNames [name]).flatten.length := by
  have shorter := Text.length_replaceAll_nil_lt inside invalidWord_ne_nil
  have apart : (name != invalidWord) = true := bne_iff_ne.mpr other
  cases name with
  | nil => exact absurd (List.infix_nil.mp inside) invalidWord_ne_nil
  | cons c name => simpa [flatten_strippedNames, properNames, apart] using shorter

/-- Stripped names have no letter more than the proper ones. -/
theorem length_strippedNames_le (names : List (List Char)) :
    (strippedNames names).flatten.length ≤ (properNames names).flatten.length := by
  induction names with
  | nil => exact Nat.le_refl 0
  | cons name names ih =>
      have first : (strippedNames [name]).flatten.length ≤ (properNames [name]).flatten.length := by
        by_cases intact : invalidWord <:+: name → name = invalidWord
        · exact Nat.le_of_eq (by rw [strippedNames_singleton intact])
        · obtain ⟨inside, other⟩ := Classical.not_imp.mp intact
          exact Nat.le_of_lt (length_strippedNames_lt inside other)
      rw [← List.singleton_append, strippedNames_append, properNames_append, List.flatten_append,
        List.flatten_append, List.length_append, List.length_append]
      exact Nat.add_le_add first ih

/-- **The other names are left exactly if none of them has the marker inside.** -/
theorem strippedNames_eq_properNames {names : List (List Char)} :
    strippedNames names = properNames names ↔
      ∀ name ∈ names, invalidWord <:+: name → name = invalidWord := by
  constructor
  · intro same name listed inside
    refine Decidable.byContradiction fun other => ?_
    obtain ⟨front, rest, rfl⟩ := List.append_of_mem listed
    have lengths := congrArg (fun kept => kept.flatten.length) same
    rw [← List.singleton_append] at lengths
    simp only [strippedNames_append, properNames_append, List.flatten_append,
      List.length_append] at lengths
    have less := length_strippedNames_lt inside other
    have before := length_strippedNames_le front
    have behind := length_strippedNames_le rest
    omega
  · intro intact
    induction names with
    | nil => rfl
    | cons name names ih =>
        obtain ⟨head, tail⟩ := List.forall_mem_cons.mp intact
        rw [← List.singleton_append, strippedNames_append, properNames_append,
          strippedNames_singleton head, ih tail]

/-! ## The parts of a line -/

section Lines

variable (words : List ListedWord)

theorem semicolon_not_mem_join : ';' ∉ Text.join [','] (words.map ListedWord.text) := by
  intro inside
  rcases Text.mem_join inside with comma | ⟨text, own, inside⟩
  · exact absurd comma (by decide)
  · obtain ⟨listed, -, rfl⟩ := List.mem_map.mp own
    exact not_mem_text (by decide) (by decide +kernel) listed inside

theorem nameList_wordList (comment : Option (List Char)) :
    nameList (wordList words comment) = Text.join [','] (words.map ListedWord.text) := by
  have whole := semicolon_not_mem_join words
  cases comment with
  | none => simp [nameList, wordList, Text.cut?_eq_none whole]
  | some comment => simp [nameList, wordList, Text.cut?_append whole]

theorem lineComment_wordList (comment : Option (List Char)) :
    lineComment (wordList words comment) = (comment.map Text.trim).getD [] := by
  have whole := semicolon_not_mem_join words
  cases comment with
  | none => simp [lineComment, wordList, Text.cut?_eq_none whole]
  | some comment => simp [lineComment, wordList, Text.cut?_append whole]

/-- **The marker stands in the list exactly if it is one of the words.** -/
theorem containsWord_join :
    containsWord invalidWord (Text.join [','] (words.map ListedWord.text)) = true ↔
      invalidWord ∈ words.map ListedWord.word := by
  have comma : (!isWordChar ',') = true := by decide +kernel
  rw [containsWord, List.contains_iff_mem,
    @Text.mem_pieces_join _ (fun c => !isWordChar c) _ _ comma _ invalidWord_ne_nil]
  have piece (listed : ListedWord) :
      invalidWord ∈ Text.pieces (fun c => !isWordChar c) listed.text ↔
        invalidWord = listed.word := by
    refine Text.mem_pieces_between ?_ ?_ ?_ invalidWord_ne_nil
    · intro c inside
      rw [isWordChar_of_isBlank (listed.blank_before c inside), Bool.not_false]
    · intro c inside
      rw [listed.isWordChar c inside, Bool.not_true]
    · intro c inside
      rw [isWordChar_of_isBlank (listed.blank_after c inside), Bool.not_false]
  constructor
  · rintro ⟨text, own, inside⟩
    obtain ⟨listed, present, rfl⟩ := List.mem_map.mp own
    exact List.mem_map.mpr ⟨listed, present, ((piece listed).mp inside).symm⟩
  · intro own
    obtain ⟨listed, present, same⟩ := List.mem_map.mp own
    exact ⟨listed.text, List.mem_map_of_mem present, (piece listed).mpr same.symm⟩

/-- The words between the commas, each of them changed in the same way. -/
theorem aliasesOf_join {change : List Char → List Char}
    (part : ∀ word, (change word).Sublist word) :
    aliasesOf (Text.join [',']
        (words.map fun listed => listed.before ++ (change listed.word ++ listed.after))) =
      (words.map fun listed => change listed.word).filter fun word => !word.isEmpty := by
  cases words with
  | nil => rfl
  | cons first others =>
      have apart : ∀ text ∈ (first :: others).map
            (fun listed => listed.before ++ (change listed.word ++ listed.after)),
          ∀ c ∈ text, (c == ',') = false := by
        intro text own c inside
        obtain ⟨listed, -, rfl⟩ := List.mem_map.mp own
        refine beq_false_of_ne ?_
        rintro rfl
        refine @not_mem_text ',' (by decide) (by decide +kernel) listed ?_
        simp only [ListedWord.text, List.mem_append] at inside ⊢
        exact inside.imp id (Or.imp (fun own => (part listed.word).mem own) id)
      have trimmed (listed : ListedWord) :
          Text.trim (listed.before ++ (change listed.word ++ listed.after)) = change listed.word :=
        Text.trim_padded listed.blank_before listed.blank_after fun c inside =>
          isBlank_of_isWordChar (listed.isWordChar c ((part listed.word).mem inside))
      rw [aliasesOf, Text.pieces_join apart (beq_self_eq_true ',') (by simp), List.map_map]
      congr 1
      exact List.map_congr_left fun listed _ => trimmed listed

/-- **A list without the marker keeps its words.** -/
theorem aliasesOf_unmarked (plain : invalidWord ∉ words.map ListedWord.word) :
    aliasesOf (unmarked (Text.join [','] (words.map ListedWord.text))) =
      properNames (words.map ListedWord.word) := by
  rw [unmarked, if_neg (mt (containsWord_join words).mp plain)]
  refine (aliasesOf_join words fun word => List.Sublist.refl word).trans ?_
  refine List.filter_congr fun name listed => ?_
  have other : (name != invalidWord) = true :=
    bne_iff_ne.mpr fun marker => plain (marker ▸ listed)
  rw [other, Bool.and_true]

/-- **The marker is deleted from every word of its list.** -/
theorem aliasesOf_marked (marked : invalidWord ∈ words.map ListedWord.word) :
    aliasesOf (unmarked (Text.join [','] (words.map ListedWord.text))) =
      strippedNames (words.map ListedWord.word) := by
  have each (listed : ListedWord) : Text.replaceAll invalidWord [] listed.text =
      listed.before ++ (Text.replaceAll invalidWord [] listed.word ++ listed.after) :=
    Text.replaceAll_between [] invalidWord_ne_nil
      (fun c inside => not_mem_invalidWord_of_isBlank (listed.blank_before c inside))
      (fun c inside => not_mem_invalidWord_of_isBlank (listed.blank_after c inside)) listed.word
  rw [unmarked, if_pos ((containsWord_join words).mpr marked),
    Text.replaceAll_join [] invalidWord_ne_nil (by decide), List.map_map, strippedNames,
    List.map_map]
  simp only [Function.comp_def, each]
  exact aliasesOf_join words fun word => Text.sublist_replaceAll_nil invalidWord word

/-- The parts of a comment that are not empty, with a blank between neighbours. -/
theorem commentOf_eq (parts : List (List Char)) :
    commentOf parts =
      let kept := parts.filter fun part => !part.isEmpty
      if kept = [] then none else some ([' '].intercalate kept) := by
  rw [commentOf]
  cases parts.filter fun part => !part.isEmpty with
  | nil => rfl
  | cons part others => simp only [reduceCtorEq, if_false, Text.join_eq_intercalate]

/-- The comment of a list of words goes on in the other lines. -/
theorem commentOf_wordList (comment : Option (List Char)) (others : List (List Char)) :
    commentOf (lineComment (wordList words comment) :: others.map Text.trim) =
      commentOf ((comment.toList ++ others).map Text.trim) := by
  rw [lineComment_wordList]
  cases comment with
  | none => rfl
  | some comment => rfl

/-- **What a list of words says.** Its constant is invalid exactly if the marker is one of
the words. The aliases are the words other than the marker exactly if the marker, where
it is one of the words, stands inside no other; else its letters are deleted from them.
The comment is trimmed line by line. -/
theorem ofLines_wordList (comment : Option (List Char)) (others : List String) :
    let names := words.map ListedWord.word
    let doc := ofLines (String.ofList (wordList words comment) :: others)
    let remarks := ((comment.toList ++ others.map String.toList).map Text.trim).filter
      fun remark => !remark.isEmpty
    (doc.isValid = false ↔ invalidWord ∈ names) ∧
    (doc.aliases.map String.toList = properNames names ↔
      (invalidWord ∈ names → ∀ name ∈ names, invalidWord <:+: name → name = invalidWord)) ∧
    doc.aliases.map String.toList =
      (if invalidWord ∈ names then strippedNames names else properNames names) ∧
    doc.comment.map String.toList =
      if remarks = [] then none else some ([' '].intercalate remarks) := by
  intro names doc remarks
  have aliases : doc.aliases.map String.toList =
      if invalidWord ∈ names then strippedNames names else properNames names := by
    simp only [doc, ofLines, String.toList_ofList, nameList_wordList, List.map_map,
      Function.comp_def, List.map_id']
    split
    · rename_i marked
      exact aliasesOf_marked words marked
    · rename_i plain
      exact aliasesOf_unmarked words plain
  refine ⟨?_, ?_, aliases, ?_⟩
  · simp only [doc, ofLines, String.toList_ofList, nameList_wordList, Bool.not_eq_false']
    exact containsWord_join words
  · rw [aliases]
    split
    · rename_i marked
      rw [strippedNames_eq_properNames]
      exact ⟨fun intact _ => intact, fun intact => intact marked⟩
    · rename_i plain
      exact ⟨fun _ marked => absurd marked plain, fun _ => rfl⟩
  · have lines : others.map (fun line => Text.trim line.toList) =
        (others.map String.toList).map Text.trim := by
      rw [List.map_map]
      rfl
    simp only [doc, ofLines, String.toList_ofList, Option.map_map, Function.comp_def,
      Option.map_id', lines, commentOf_wordList]
    exact commentOf_eq _

/-- Of the alias in `invalid, invalidated` the end is left. -/
theorem alias_stripped_beside_marker :
    ∃ words : List ListedWord, wordList words none = "invalid, invalidated".toList ∧
      words.map ListedWord.word = ["invalid".toList, "invalidated".toList] ∧
      (ofLines ["invalid, invalidated"]).isValid = false ∧
      (ofLines ["invalid, invalidated"]).aliases = ["ated"] := by
  refine ⟨[⟨[], "invalid".toList, [], List.all_eq_true.mp rfl,
      List.all_eq_true.mp (by decide +kernel), List.all_eq_true.mp rfl⟩,
    ⟨[' '], "invalidated".toList, [], List.all_eq_true.mp (by decide +kernel),
      List.all_eq_true.mp (by decide +kernel), List.all_eq_true.mp rfl⟩], ?_⟩
  decide +kernel

end Lines

end MemberDoc

end NamedConstants
