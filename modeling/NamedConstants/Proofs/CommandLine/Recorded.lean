import NamedConstants.Companion.Writer
import NamedConstants.Path
import NamedConstants.Proofs.Companion.Lines

/-!
# The command line that a companion records

The header of a companion records a command line. It is found in the text of the
companion by what stands in front of it (`recorded?_write`), and a shell cuts it at
its blanks into the name of the program and its arguments (`words?_commandLine`),
provided that the name of the source stands for itself in a shell: it is put behind
the switches as it is, and nothing is quoted.
-/

set_option autoImplicit false

namespace NamedConstants.CommandLine

/-! ## Words of a shell -/

/-- The characters that have to be quoted in a shell, or may have to be. -/
def quotedCharacters : List Char :=
  " \t\n|&;<>()$\x60\\\"'*?[]#~=%!^\x7b\x7d".toList

/-- The character stands for itself in a shell. -/
def isLiteral (c : Char) : Bool :=
  !quotedCharacters.contains c

/-- The words of a command line in which nothing is quoted; `none` if a shell may
read more into it than words and blanks. -/
def words? (line : String) : Option (List String) :=
  if line.toList.all fun c => isLiteral c || c == ' ' then
    some (((Text.pieces (· == ' ') line.toList).filter fun word => !word.isEmpty).map String.ofList)
  else none

/-- Every character of the word stands for itself, and there is one. -/
def IsLiteralWord (word : String) : Prop :=
  word ≠ "" ∧ word.toList.all isLiteral = true

theorem not_mem_of_isLiteralWord {word : String} (literal : IsLiteralWord word) {c : Char}
    (quoted : isLiteral c = false) : c ∉ word.toList := by
  intro listed
  rw [List.all_eq_true.mp literal.2 c listed] at quoted
  cases quoted

/-- Words that are joined by blanks are read as these words. -/
theorem words?_join {words : List String} (literal : ∀ word ∈ words, IsLiteralWord word) :
    words? (String.ofList (Text.join [' '] (words.map String.toList))) = some words := by
  have apart : ∀ text ∈ words.map String.toList, ∀ c ∈ text, (c == ' ') = false := by
    intro text listed c inside
    obtain ⟨word, own, rfl⟩ := List.mem_map.mp listed
    refine beq_false_of_ne ?_
    rintro rfl
    exact not_mem_of_isLiteralWord (literal word own) rfl inside
  have plain : (Text.join [' '] (words.map String.toList)).all
      (fun c => isLiteral c || c == ' ') = true := by
    rw [List.all_eq_true]
    intro c listed
    rcases Text.mem_join listed with between | ⟨text, own, inside⟩
    · rw [List.mem_singleton.mp between]
      rfl
    · obtain ⟨word, given, rfl⟩ := List.mem_map.mp own
      rw [List.all_eq_true.mp (literal word given).2 c inside, Bool.true_or]
  rw [words?, String.toList_ofList, if_pos plain]
  cases words with
  | nil => rfl
  | cons word others =>
      have filled : ∀ text ∈ (word :: others).map String.toList, (!text.isEmpty) = true := by
        intro text listed
        obtain ⟨own, given, rfl⟩ := List.mem_map.mp listed
        simpa using (literal own given).1
      have cut : Text.pieces (· == ' ') (Text.join [' '] ((word :: others).map String.toList)) =
          (word :: others).map String.toList :=
        Text.pieces_join apart (beq_self_eq_true ' ') (List.cons_ne_nil _ _)
      rw [cut, List.filter_eq_self.mpr filled, List.map_map]
      simp [Function.comp_def]

/-! ## The recorded command line -/

/-- What stands in front of a recorded command line. -/
def commandMarker : String := "// Command: "

/-- The command line that a text records: what follows the marker on the first line
that starts with it. -/
def recorded? (text : String) : Option String :=
  (Companion.linesOf text).findSome? fun line =>
    (Text.after? commandMarker.toList line.toList).map String.ofList

/-- The arguments on a command line that writes a companion again. -/
def recordedArguments (request : Request) : List String :=
  ["generate"] ++ (if request.failfast then ["--failfast"] else []) ++
    (if request.insensitive then ["--insensitive"] else []) ++ [request.source]

variable {request : Request}

theorem commandLine_eq_join (request : Request) :
    Companion.commandLine request = String.ofList
      (Text.join [' '] (("enumforge" :: recordedArguments request).map String.toList)) := by
  rw [← String.toList_inj, String.toList_ofList]
  unfold Companion.commandLine recordedArguments
  cases request.failfast <;> cases request.insensitive <;> simp [Text.join]

/-- **The recorded command line is read as the program and its arguments.** -/
theorem words?_commandLine (literal : IsLiteralWord request.source) :
    words? (Companion.commandLine request) = some ("enumforge" :: recordedArguments request) := by
  rw [commandLine_eq_join]
  refine words?_join fun word listed => ?_
  have switches : ∀ word ∈ ["enumforge", "generate", "--failfast", "--insensitive"],
      IsLiteralWord word := by
    unfold IsLiteralWord
    decide +kernel
  have listed' : word ∈ ["enumforge", "generate", "--failfast", "--insensitive"] ∨
      word = request.source := by
    grind [recordedArguments]
  rcases listed' with fixed | rfl
  · exact switches word fixed
  · exact literal

/-- **A companion records its command line.** -/
theorem recorded?_write (literal : IsLiteralWord request.source)
    (version : '\n' ∉ request.version.toList) :
    recorded? (Companion.write request) = some (Companion.commandLine request) := by
  have source : '\n' ∉ request.source.toList := not_mem_of_isLiteralWord literal rfl
  have first : '\n' ∉ ("// Code generated by enumforge " ++ request.version ++
      ". DO NOT EDIT.").toList := by
    simp [version]
  have second : '\n' ∉ ("// Source: " ++ request.source).toList := by
    simp [source]
  have third : '\n' ∉ ("// Command: " ++ Companion.commandLine request).toList := by
    unfold Companion.commandLine
    cases request.failfast <;> cases request.insensitive <;> simp [source]
  rw [recorded?, Companion.write, Companion.lines, Companion.header, List.cons_append,
    List.cons_append, List.cons_append, Companion.linesOf_text_cons first,
    Companion.linesOf_text_cons second, Companion.linesOf_text_cons third]
  have code : Text.after? commandMarker.toList ("// Code generated by enumforge " ++
      request.version ++ ". DO NOT EDIT.").toList = none := by
    rw [String.toList_append, String.toList_append, List.append_assoc]
    rfl
  have name : Text.after? commandMarker.toList ("// Source: " ++ request.source).toList = none := by
    rw [String.toList_append]
    rfl
  have command : Text.after? commandMarker.toList
      ("// Command: " ++ Companion.commandLine request).toList =
        some (Companion.commandLine request).toList := by
    rw [String.toList_append]
    exact Text.after?_append _ _
  rw [List.findSome?_cons, code, Option.map_none, List.findSome?_cons, name, Option.map_none,
    List.findSome?_cons, command, Option.map_some, String.ofList_toList]

end NamedConstants.CommandLine
