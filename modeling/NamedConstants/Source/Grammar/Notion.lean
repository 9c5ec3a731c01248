import NamedConstants.Source.Phrase

/-!
# Notions of the source grammar

The named phrases of the grammar, and the phrases that all parts of it use:
identifiers, attributes, visibility and plain paths.
-/

set_option autoImplicit false

namespace NamedConstants.Source

/-- The named phrases of the grammar. -/
inductive Notion
  | outerAttributes
  | innerAttributes
  | visibility
  | modulePath
  /-- A type; without `sums` it stops before a plus sign. -/
  | type (sums : Bool)
  | typePath
  | genericArguments
  | bound
  | bounds
  | boundLifetimes
  | genericParameters
  | whereClause
  | pattern
  | singlePattern
  /-- An expression; without `structs` a brace ends it. -/
  | expression (structs : Bool)
  | disjunction (structs : Bool)
  | conjunction (structs : Bool)
  | comparison (structs : Bool)
  | arithmetic (structs : Bool)
  | cast (structs : Bool)
  | unary (structs : Bool)
  | expressionPath
  | blockLike
  | conditional
  | block
  | statement
  | item
  | signature
  | useTree
  deriving DecidableEq, Repr

/-- Phrases of the source grammar. -/
abbrev Rule := Phrase Notion

namespace Rule

open Phrase

/-- An identifier. -/
def ident : Rule := token Token.isIdent

/-- An identifier or an underscore. -/
def identOrGap : Rule := any [ident, word "_"]

def lifetime : Rule := token Token.isLifetime

def literal : Rule := token Token.isLiteral

/-- A number. -/
def number : Rule :=
  token fun
    | .literal (.integer _) | .literal (.float _) => true
    | _ => false

/-- A string literal. -/
def string : Rule :=
  token fun
    | .literal (.string _) => true
    | _ => false

/-- A group of any content stands ahead. -/
def opens (delimiter : Delimiter) : Rule :=
  ahead (token fun
    | .group found _ => found == delimiter
    | _ => false)

/-- A word that may stand in a path. -/
def pathWord : Rule := any [ident, oneWord ["super", "self", "Self", "crate"]]

/-- Phrases between commas. -/
def commaList (phrase : Rule) : Rule := listed (symbol ",") phrase

/-- The content of an attribute. -/
def attributeContent : Rule :=
  all [any [word "unsafe", named .modulePath],
    any [anyDelimited,
      all [symbol "=", notAhead (all [symbol "#", opens .bracket]), named (.expression true)],
      nothing]]

/-- Attributes of what follows. -/
def outerAttributes : Rule :=
  repeated (all [symbol "#", group .bracket attributeContent])

/-- Attributes of what they stand in. -/
def innerAttributes : Rule :=
  repeated (all [symbol "#", symbol "!", group .bracket attributeContent])

/-- Who can see an item. -/
def visibility : Rule :=
  optional (all [word "pub",
    optional (any [group .parenthesis (oneWord ["crate", "self", "super"]),
      group .parenthesis (all [word "in", named .modulePath])])])

/-- A path without arguments. -/
def modulePath : Rule :=
  all [optional (symbol "::"), pathWord, repeated (all [symbol "::", pathWord]),
    notAhead (symbol "::")]

end Rule

end NamedConstants.Source
