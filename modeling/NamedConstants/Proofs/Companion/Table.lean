import NamedConstants.Proofs.Companion.Container
import NamedConstants.Proofs.Companion.Entry
import NamedConstants.Proofs.Declaration.Names

/-!
# The table of a companion

A table that is written for a family is read back from the text of its lines as
the entries of its members, in order (`readTable?_linesOf`). No name breaks a
line (`lineFeed_not_mem_memberTable`).

The names of an entry are the names of the member without repetitions. The table
that is read answers to every name as the one with all the aliases of the members
does (`exists_readTable?_of_write`).
-/

set_option autoImplicit false

namespace NamedConstants

namespace Companion

variable {declaration : Declaration}

/-! ## Reading a table -/

/-- What the definition of a table says. -/
structure TableReading where
  /-- The table ignores case. -/
  insensitive : Bool
  entries : List Entry
  deriving DecidableEq

/-- Reads which function makes a table. -/
def readConstructor? (line : String) : Option Bool :=
  if line = "    ::enumforge_core::EnumIndex::new(vec![" then some false
  else if line = "    ::enumforge_core::EnumIndex::case_insensitive(vec![" then some true
  else none

/-- Reads an indented entry. -/
def readEntryLine? (wrapper line : String) : Option Entry :=
  (Text.after? "        ".toList line.toList).bind fun rest =>
    readEntryText? wrapper (String.ofList rest)

/-- Reads the definition of a table of the given wrapper, with one entry on each
line. -/
def readTable? (wrapper : String) : Lines → Option TableReading
  | _ :: constructor :: rest => do
    let insensitive ← readConstructor? constructor
    let entries ← (rest.takeWhile (· != "    ])")).mapM (readEntryLine? wrapper)
    return ⟨insensitive, entries⟩
  | _ => none

/-! ## The lines of a table -/

/-- The line that opens the definition of a table. -/
def tableOpening (declaration : Declaration) : String :=
  "static " ++ declaration.tableValue ++ ": " ++ lazyType ++ "<" ++ core ++ "::EnumIndex<" ++
    declaration.wrapper ++ ">> = " ++ lazyType ++ "::new(|| \x7b"

/-- The line that calls the function of a table. -/
def constructorLine (insensitive : Bool) : String :=
  "    ::enumforge_core::EnumIndex::" ++ tableConstructor insensitive ++ "(vec!["

/-- The line that a member has in a table. -/
def memberLine (declaration : Declaration) (member : Constant) : String :=
  "        " ++ entryLine declaration (.ofMember member)

/-- The definition of a table as the lines that are meant. -/
def memberTable (declaration : Declaration) (insensitive : Bool) : Lines :=
  [tableOpening declaration, constructorLine insensitive] ++
    declaration.members.map (memberLine declaration) ++ ["    ])", "\x7d);", ""]

theorem indented_indented_entryLine (entry : Entry) :
    indented (indented (entryLine declaration entry)) =
      "        " ++ entryLine declaration entry := by
  have starts : ∃ rest, entryLine declaration entry = core ++ rest := by
    refine ⟨?rest, ?_⟩
    case rest =>
      exact "::IndexEntry::new(" ++ wrapped declaration entry.ident ++ ", " ++
        Text.quotedString entry.name ++ ")" ++ aliasesCall entry.aliases ++
        (if entry.isValid then "" else ".invalid()") ++ ","
    simp only [entryLine, String.append_assoc]
  obtain ⟨rest, starts⟩ := starts
  rw [starts, indented_append (by decide), indented_append (by decide), ← String.append_assoc]
  rfl

theorem tableLines_eq (declaration : Declaration) (insensitive : Bool) :
    tableLines declaration insensitive = memberTable declaration insensitive := by
  have constructor : indented (core ++ "::EnumIndex::" ++ tableConstructor insensitive ++ "(vec![") =
      constructorLine insensitive := by
    cases insensitive with
    | false => rfl
    | true => rfl
  have entries : declaration.members.map (indented ∘ indented ∘ fun member =>
      entryLine declaration (.ofMember member)) = declaration.members.map (memberLine declaration) :=
    List.map_congr_left fun member _ => indented_indented_entryLine (.ofMember member)
  rw [tableLines, enclosed, enclosed, memberTable]
  simp only [List.map_append, List.map_cons, List.map_nil, List.map_map, constructor, entries,
    List.cons_append, List.nil_append, List.append_assoc]
  rfl

theorem readConstructor?_constructorLine (insensitive : Bool) :
    readConstructor? (constructorLine insensitive) = some insensitive := by
  cases insensitive with
  | false => rfl
  | true => rfl

/-- What is written line by line is read line by line. -/
theorem mapM_map_eq_some {α β γ : Type} {read : β → Option γ} {write : α → β} {value : α → γ}
    {list : List α} (reads : ∀ a ∈ list, read (write a) = some (value a)) :
    (list.map write).mapM read = some (list.map value) := by
  induction list with
  | nil => rfl
  | cons a list ih =>
      obtain ⟨head, tail⟩ := List.forall_mem_cons.mp reads
      rw [List.map_cons, List.mapM_cons, head, ih tail]
      rfl

/-- The names of the constants are identifiers, and that of the family stands on
one line. -/
structure HasPlainIdents (declaration : Declaration) : Prop where
  typeName : '\n' ∉ declaration.typeName.toList
  ident : ∀ member ∈ declaration.members, ∀ c ∈ member.ident.toList, isIdentChar c = true

theorem memberLine_ne_closing (member : Constant) :
    (memberLine declaration member != "    ])") = true := by
  rw [bne_iff_ne]
  intro same
  have fifth : (memberLine declaration member).toList[4]? = "    ])".toList[4]? := by rw [same]
  rw [memberLine, String.toList_append, List.getElem?_append_left (by decide)] at fifth
  exact absurd fifth (by decide)

/-- The table of a family is read as the entries of its members. -/
theorem readTable?_memberTable (plain : HasPlainIdents declaration) (insensitive : Bool) :
    readTable? declaration.wrapper (memberTable declaration insensitive) =
      some ⟨insensitive, declaration.members.map Entry.ofMember⟩ := by
  have entries : (declaration.members.map (memberLine declaration)).mapM
      (readEntryLine? declaration.wrapper) = some (declaration.members.map Entry.ofMember) := by
    refine mapM_map_eq_some fun member listed => ?_
    rw [readEntryLine?, memberLine, String.toList_append, Text.after?_append, Option.bind_some,
      String.ofList_toList, readEntryText?_entryLine (plain.ident member listed)]
  have inside : ∀ line ∈ declaration.members.map (memberLine declaration),
      (line != "    ])") = true := by
    intro line listed
    obtain ⟨member, -, rfl⟩ := List.mem_map.mp listed
    exact memberLine_ne_closing member
  rw [memberTable, List.append_assoc, List.cons_append, List.cons_append, List.nil_append,
    readTable?, readConstructor?_constructorLine, List.takeWhile_append_of_pos inside]
  simp only [Option.bind_eq_bind, Option.bind_some]
  rw [List.takeWhile_cons_of_neg (by decide), List.append_nil, entries]
  rfl

/-! ## Line feeds -/

theorem lineFeed_not_mem_spelledNames (names : List String) : '\n' ∉ spelledNames names := by
  induction names with
  | nil => decide
  | cons name names ih =>
      cases names with
      | nil =>
          rw [spelledNames_singleton]
          exact Source.lineFeed_not_mem_quoted name.toList
      | cons next others =>
          rw [spelledNames_cons_cons, List.mem_append, List.mem_append, not_or, not_or]
          exact ⟨Source.lineFeed_not_mem_quoted name.toList, by decide, ih⟩

theorem lineFeed_not_mem_aliasesCall (aliases : List String) :
    '\n' ∉ (aliasesCall aliases).toList := by
  rw [toList_aliasesCall]
  split
  · exact List.not_mem_nil
  · rw [List.mem_append, List.mem_append, not_or, not_or]
    exact ⟨⟨by decide, lineFeed_not_mem_spelledNames aliases⟩, by decide⟩

theorem lineFeed_not_mem_owningCall (kind : Kind) : '\n' ∉ (owningCall kind).toList := by
  rcases owningCall_cases kind with call | call | call
  · rw [call]
    decide
  · rw [call]
    decide
  · rw [call]
    decide

theorem lineFeed_not_mem_wrapper (plain : HasPlainIdents declaration) :
    '\n' ∉ declaration.wrapper.toList :=
  lineFeed_not_mem_pascal plain.typeName (by decide)

theorem lineFeed_not_mem_tableOpening (plain : HasPlainIdents declaration) :
    '\n' ∉ (tableOpening declaration).toList := by
  have wrapper := lineFeed_not_mem_wrapper plain
  have value : '\n' ∉ declaration.tableValue.toList := by
    refine lineFeed_not_mem_append ?_ (by decide)
    rw [String.toList_ofList]
    exact Text.lineFeed_not_mem_upperSnakeCase plain.typeName
  have fixed : '\n' ∉ "static ".toList ∧ '\n' ∉ ": ".toList ∧ '\n' ∉ lazyType.toList ∧
      '\n' ∉ "<".toList ∧ '\n' ∉ core.toList ∧ '\n' ∉ "::EnumIndex<".toList ∧
      '\n' ∉ ">> = ".toList ∧ '\n' ∉ "::new(|| \x7b".toList := by
    decide
  delta tableOpening
  simp only [String.toList_append, List.mem_append, not_or]
  simp only [fixed, wrapper, value, not_false_eq_true, and_self]

theorem lineFeed_not_mem_entryLine {entry : Entry} (wrapper : '\n' ∉ declaration.wrapper.toList)
    (ident : '\n' ∉ entry.ident.toList) : '\n' ∉ (entryLine declaration entry).toList := by
  have opening : '\n' ∉ (entryOpening declaration.wrapper).toList :=
    lineFeed_not_mem_append (lineFeed_not_mem_append (by decide) wrapper) (by decide)
  have mark : '\n' ∉ (markCall entry.isValid).toList := by
    cases entry.isValid <;> decide
  rw [toList_entryLine]
  simp only [List.mem_append, not_or]
  exact ⟨opening, ident, lineFeed_not_mem_owningCall _, by decide,
    Source.lineFeed_not_mem_quoted _, by decide, lineFeed_not_mem_aliasesCall _, mark, by decide⟩

/-- No line of a table is broken, whatever the names are. -/
theorem lineFeed_not_mem_memberTable (plain : HasPlainIdents declaration) (insensitive : Bool) :
    ∀ line ∈ memberTable declaration insensitive, '\n' ∉ line.toList := by
  intro line listed
  rcases List.mem_append.mp listed with above | closing
  · rcases List.mem_append.mp above with opening | entries
    · rcases List.mem_cons.mp opening with rfl | constructor
      · exact lineFeed_not_mem_tableOpening plain
      · rw [List.mem_singleton.mp constructor]
        cases insensitive <;> decide
    · obtain ⟨member, inside, rfl⟩ := List.mem_map.mp entries
      refine lineFeed_not_mem_append (by decide)
        (lineFeed_not_mem_entryLine (lineFeed_not_mem_wrapper plain) fun feed => ?_)
      exact absurd (plain.ident member inside _ feed) (by decide)
  · exact (by decide : ∀ line ∈ ["    ])", "\x7d);", ""], '\n' ∉ line.toList) line closing

/-- The table that is read from the text of a table. -/
theorem readTable?_linesOf (plain : HasPlainIdents declaration) (insensitive : Bool) :
    readTable? declaration.wrapper (linesOf (text (tableLines declaration insensitive))) =
      some ⟨insensitive, declaration.members.map Entry.ofMember⟩ := by
  rw [tableLines_eq, linesOf_text_eq_iff.mpr (lineFeed_not_mem_memberTable plain insensitive),
    readTable?_memberTable plain]

/-! ## What a table answers -/

/-- The member that an entry makes of the value of its constant. -/
def Entry.member {kind : Kind} (value : String → Scalar kind) (entry : Entry) : Member kind :=
  ⟨value entry.ident, entry.name, entry.aliases, entry.isValid⟩

/-- The table that is made of the values of the constants. -/
def TableReading.table {kind : Kind} (value : String → Scalar kind) (reading : TableReading) :
    Table kind :=
  .ofMembers reading.insensitive (reading.entries.map (Entry.member value))

/-- The entry says what its member is. -/
structure Entry.IsOf (entry : Entry) (member : Constant) : Prop where
  ident : entry.ident = member.ident
  name : entry.name = member.name
  names : entry.name :: entry.aliases = member.lookupNames
  isValid : entry.isValid = member.isValid

theorem Entry.isOf_ofMember (member : Constant) : (Entry.ofMember member).IsOf member where
  ident := rfl
  name := rfl
  names := member.lookupNames_eq_cons.symm
  isValid := rfl

/-- An entry has the names of its member. -/
theorem mem_names_ofMember {kind : Kind} (value : String → Scalar kind) (member : Constant)
    (name : String) :
    name ∈ (Entry.member value (.ofMember member)).names ↔ name ∈ (member.member value).names := by
  have names : (Entry.member value (.ofMember member)).names = member.lookupNames :=
    member.lookupNames_eq_cons.symm
  rw [names, Constant.mem_lookupNames]
  rfl

theorem exists_write_tableLines (request : Request) (before after : List Declaration)
    (declaration : Declaration) :
    ∃ above below : String,
      write { request with declarations := before ++ declaration :: after } =
        above ++ text (tableLines declaration request.insensitive) ++ below := by
  have whole : lines { request with declarations := before ++ declaration :: after } =
      header request ++ (before ++ declaration :: after).flatMap
        fun declaration => "" :: declarationLines request declaration :=
    rfl
  refine ⟨text (header request ++
      before.flatMap (fun declaration => "" :: declarationLines request declaration) ++
      "" :: (title declaration ++ wrapperLines declaration ++ containerLines declaration)),
    text (inherentLines declaration request.failfast ++ displayLines declaration ++
      traitLines declaration ++ surfaceLines declaration ++
      after.flatMap fun declaration => "" :: declarationLines request declaration), ?_⟩
  rw [write, whole, List.flatMap_append, List.flatMap_cons, declarationLines, ← text_append,
    ← text_append]
  simp only [List.append_assoc, List.cons_append]

/-- **The table of a companion says what the members are.** Its lines are read
back as one entry for every member, in order, with the identifier, the names each
once and the mark of the member. It ignores case exactly if that is asked for.
Whatever the values of the constants are, it answers to every name as the table
with all the aliases of the members does. -/
theorem exists_readTable?_of_write (plain : HasPlainIdents declaration) (request : Request)
    (before after : List Declaration) :
    ∃ (above below : String) (reading : TableReading),
      write { request with declarations := before ++ declaration :: after } =
        above ++ text (tableLines declaration request.insensitive) ++ below ∧
      readTable? declaration.wrapper
        (linesOf (text (tableLines declaration request.insensitive))) = some reading ∧
      reading.insensitive = request.insensitive ∧
      reading.entries = declaration.members.map Entry.ofMember ∧
      (∀ member ∈ declaration.members, (Entry.ofMember member).IsOf member ∧
        member.lookupNames.Nodup) ∧
      ∀ (value : String → Scalar declaration.kind) (name : String),
        let all := Table.ofMembers request.insensitive
          (declaration.members.map (Constant.member value))
        (reading.table value).positionOfName? name = all.positionOfName? name ∧
          ((reading.table value).findByName? name).map (·.raw) =
            (all.findByName? name).map (·.raw) := by
  obtain ⟨above, below, whole⟩ := exists_write_tableLines request before after declaration
  refine ⟨above, below, _, whole, readTable?_linesOf plain request.insensitive, rfl, rfl,
    fun member _ => ⟨Entry.isOf_ofMember member, member.nodup_lookupNames⟩, fun value name => ?_⟩
  rw [TableReading.table, List.map_map]
  exact ⟨Table.positionOfName?_congr (mem_names_ofMember value) _ _ name,
    Table.raw_findByName?_congr (mem_names_ofMember value) (fun _ => rfl) _ _ name⟩

/-! ## Scanned families -/

theorem isIdentChar_of_source {c : Char}
    (own : Source.IsIdentifierChar c) : isIdentChar c = true := by
  rw [isIdentChar, Bool.and_eq_true, Bool.and_eq_true, bne_iff_ne, bne_iff_ne, bne_iff_ne]
  refine ⟨⟨?_, ?_⟩, ?_⟩
  all_goals
    rintro rfl
    revert own
    decide

/-- The constants of a scanned family are named by identifiers. -/
theorem hasPlainIdents_of_scan {configuration : Configuration} {filename text : String}
    {declarations : List Declaration}
    (scanned : Declaration.scan configuration filename text = .ok declarations)
    (listed : declaration ∈ declarations) : HasPlainIdents declaration := by
  obtain ⟨items, read, declared⟩ := Scan.isDeclaredBy_of_scan scanned
  have own := declared declaration listed
  refine ⟨(hasOneLineNames_of_isDeclaredBy read own).typeName, fun member inside c named => ?_⟩
  obtain ⟨item, there, found⟩ := own.2 member inside
  rw [Scan.ident_of_member? found] at named
  exact isIdentChar_of_source
    (Source.isIdentifierChar_of_mem_ident read there rfl c named)

/-- A source whose constant has names with a quote, a backslash and a combining
character, one of them twice. -/
def unusualNames : String :=
  "type A = u8;\n/// a\"\\, \u0301x, a\"\\ ; one\nconst B: A = 1;\n"

/-- Unusual names are read from a companion that ignores case. -/
theorem exists_readTable?_of_unusualNames :
    ∃ declaration, Declaration.scan .default "reader" unusualNames = .ok [declaration] ∧
      HasPlainIdents declaration ∧
      ∃ (above below : String) (reading : TableReading),
        write ⟨"reader", [declaration], false, true, "0.1.0"⟩ =
          above ++ text (tableLines declaration true) ++ below ∧
        readTable? declaration.wrapper (linesOf (text (tableLines declaration true))) =
          some reading ∧
        reading.insensitive = true ∧
        reading.entries = [⟨"B", "a\"\\", ["\u0301x"], true⟩] := by
  have read : Source.fileTokens? unusualNames.toList =
      some (Scan.oneConstant " a\"\\, \u0301x, a\"\\ ; one".toList) := by
    rfl
  have scanned := Scan.scan_oneConstant read "reader"
  have plain := hasPlainIdents_of_scan scanned List.mem_cons_self
  obtain ⟨above, below, reading, whole, found, case, entries, -⟩ :=
    exists_readTable?_of_write plain ⟨"reader", [], false, true, "0.1.0"⟩ [] []
  refine ⟨_, scanned, plain, above, below, reading, whole, found, case, entries.trans ?_⟩
  decide +kernel

end Companion

end NamedConstants
