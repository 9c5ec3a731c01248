import NamedConstants.Configuration.Basic
import NamedConstants.Declaration.Basic
import NamedConstants.Declaration.Doc
import NamedConstants.Source.Item

/-!
# Scanning for families

A family is an alias of a scalar type at the top of a file, together with the
constants of exactly that type. The aliases are collected first, so a constant
may stand before its alias; of several aliases of one name the first one gets
the constants. An alias without constants is passed over, unless a directive
asks for it.
-/

set_option autoImplicit false

namespace NamedConstants

open Source (Item Alias ConstantItem)

/-- A family whose constants are still to be collected. -/
structure OpenFamily where
  declaration : Declaration
  /-- A directive asks for the family. -/
  isRequested : Bool
  deriving Repr

namespace Scan

/-- The lines of a documentation. -/
def docLines (docs : List String) : List String :=
  docs.map fun line => String.ofList (Text.trim line.toList)

/-- The options that the last directive of a documentation asks for. -/
def directive? (typeName : String) : List String → Result (Option Options)
  | [] => .ok none
  | line :: lines => do
    let first ← Options.ofLine typeName line
    let later ← directive? typeName lines
    return later.or first

/-- The family that an alias opens, if it is an alias of a scalar type. -/
def openFamily? (configuration : Configuration) (item : Alias) : Result (Option OpenFamily) := do
  let requested ← directive? item.ident (docLines item.docs)
  match item.target.text?.bind fun text => (ScalarType.ofText? text).map fun type => (text, type) with
  | some (text, type) =>
    return some {
      declaration := {
        typeName := item.ident
        underlying := text
        kind := type.kind
        stored := type.stored
        members := []
        options := requested.getD (configuration.optionsOf item.ident) }
      isRequested := requested.isSome }
  | none =>
    if requested.isSome then
      throw (.directive ("type " ++ item.ident ++
        " must alias an integer, float, bool, &str or &[u8]"))
    else return none

/-- The families that the aliases among the items open, in order. -/
def openFamilies (configuration : Configuration) : List Item → Result (List OpenFamily)
  | [] => .ok []
  | .alias item :: rest => do
    let first ← openFamily? configuration item
    let others ← openFamilies configuration rest
    return first.toList ++ others
  | _ :: rest => openFamilies configuration rest

/-- The member that a constant is and the name of its type, if its value is a
literal. -/
def member? (item : ConstantItem) : Option (String × Constant) :=
  match item.type, item.value.text? with
  | .name typeName, some literal =>
    let doc := MemberDoc.ofLines (docLines item.docs)
    some (typeName, ⟨item.ident, literal, doc.aliases, doc.isValid, doc.comment⟩)
  | _, _ => none

/-- The members among the items with the names of their types, in order. -/
def members (items : List Item) : List (String × Constant) :=
  items.filterMap fun
    | .constant item => member? item
    | _ => none

/-- Adds a member to the first family of its type. -/
def attach (families : List OpenFamily) (member : String × Constant) : List OpenFamily :=
  match families with
  | [] => []
  | family :: others =>
    let declaration := family.declaration
    if declaration.typeName == member.1 then
      { family with declaration :=
        { declaration with members := declaration.members ++ [member.2] } } :: others
    else family :: attach others member

/-- The families that have members. One that is asked for needs some. -/
def close (filename : String) : List OpenFamily → Result (List Declaration)
  | [] => .ok []
  | family :: others =>
    let declaration := family.declaration
    if declaration.members.isEmpty then
      if family.isRequested then
        .error (.directive ("type " ++ declaration.typeName ++ " in " ++ filename ++
          " is annotated but declares no constants"))
      else close filename others
    else (close filename others).map (declaration :: ·)

/-- The families that items declare. -/
def ofItems (configuration : Configuration) (filename : String) (items : List Item) :
    Result (List Declaration) := do
  let families ← openFamilies configuration items
  close filename ((members items).foldl attach families)

end Scan

/-- The families that a source text declares. -/
def Declaration.scan (configuration : Configuration) (filename text : String) :
    Result (List Declaration) :=
  match Source.fileItems? text.toList with
  | some items => Scan.ofItems configuration filename items
  | none => .error (.sourceText filename "the text does not follow the grammar")

end NamedConstants
