import NamedConstants.Companion.Basic

/-!
# The table of a family

The table has one entry for every member, in the order of declaration: the
constant, the canonical name, the further names and whether the member is
marked. Names are written as string literals.
-/

set_option autoImplicit false

namespace NamedConstants.Companion

/-- An entry of the table. -/
structure Entry where
  ident : String
  name : String
  /-- The names besides the canonical one. -/
  aliases : List String
  isValid : Bool
  deriving DecidableEq, Repr

/-- The entry of a member. -/
def Entry.ofMember (member : Constant) : Entry :=
  ⟨member.ident, member.name, member.lookupNames.drop 1, member.isValid⟩

/-- The call that gives an entry its further names. -/
def aliasesCall (aliases : List String) : String :=
  if aliases.isEmpty then ""
  else ".with_aliases(&[" ++ ", ".intercalate (aliases.map Text.quotedString) ++ "])"

/-- The line of an entry. -/
def entryLine (declaration : Declaration) (entry : Entry) : String :=
  core ++ "::IndexEntry::new(" ++ wrapped declaration entry.ident ++ ", " ++
    Text.quotedString entry.name ++ ")" ++ aliasesCall entry.aliases ++
    (if entry.isValid then "" else ".invalid()") ++ ","

/-- The function that makes a table. -/
def tableConstructor (insensitive : Bool) : String :=
  if insensitive then "case_insensitive" else "new"

/-- The definition of the table. -/
def tableLines (declaration : Declaration) (insensitive : Bool) : Lines :=
  let entries := declaration.members.map fun member => entryLine declaration (.ofMember member)
  enclosed
    ("static " ++ declaration.tableValue ++ ": " ++ lazyType ++ "<" ++ core ++ "::EnumIndex<" ++
      declaration.wrapper ++ ">> = " ++ lazyType ++ "::new(|| \x7b")
    "\x7d);"
    (enclosed (core ++ "::EnumIndex::" ++ tableConstructor insensitive ++ "(vec![") "])" entries) ++
    [""]

end NamedConstants.Companion
