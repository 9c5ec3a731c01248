import NamedConstants.Source.Grammar.Expressions
import NamedConstants.Source.Grammar.Types

/-!
# Items of the source grammar

Items stand at the top of a file, in modules and in blocks: functions, imports,
constants, types, traits, implementations and calls of code generators.
-/

set_option autoImplicit false

namespace NamedConstants.Source.Rule

open Phrase

/-! ## Functions -/

/-- The receiver of a method. -/
def receiver : Rule :=
  all [optional (all [symbol "&", optional lifetime]), optional (word "mut"), word "self",
    notAhead (symbol "::"), optional (all [symbol ":", named (.type true)])]

/-- A parameter of a function. -/
def parameter : Rule :=
  all [named .outerAttributes,
    any [receiver, symbol "...",
      all [named .singlePattern, symbol ":", any [symbol "...", named (.type true)]]]]

/-- A function up to its body; `safety` is what may be said about its calls. -/
def signatureWith (safety : Rule) : Rule :=
  all [optional (word "const"), optional (word "async"), optional safety, optional convention,
    word "fn", ident, named .genericParameters, group .parenthesis (commaList parameter),
    optional (all [symbol "->", named (.type true)]), named .whereClause]

/-- A function up to its body. -/
def signature : Rule := signatureWith (word "unsafe")

/-- A function with its body or without one. -/
def function : Rule :=
  all [named .signature, any [symbol ";", named .block]]

/-- What may be said about the use of a foreign item. -/
def foreignSafety : Rule := oneWord ["unsafe", "safe"]

/-- A foreign function. -/
def foreignFunction : Rule :=
  all [signatureWith foreignSafety, any [symbol ";", named .block]]

/-! ## Imports -/

/-- The paths an import names. -/
def useTree : Rule :=
  any [symbol "*", group .brace (commaList (all [optional (symbol "::"), named .useTree])),
    all [any [pathWord, word "try"],
      any [all [symbol "::", named .useTree], all [word "as", identOrGap], nothing]]]

def imports : Rule :=
  any [all [word "use", optional (symbol "::"), named .useTree, symbol ";"],
    all [word "extern", word "crate", any [ident, word "self"],
      optional (all [word "as", identOrGap]), symbol ";"]]

/-! ## Values and types -/

def staticItem : Rule :=
  all [word "static", optional (word "mut"), ident, optional (all [symbol ":", named (.type true)]),
    optional (all [symbol "=", named (.expression true)]), symbol ";"]

def constantItem : Rule :=
  all [word "const", identOrGap, named .genericParameters, symbol ":", named (.type true),
    optional (all [symbol "=", named (.expression true)]), named .whereClause, symbol ";"]

/-- The conditions of a type item may also stand behind the type. -/
def typeItem : Rule :=
  all [word "type", ident, named .genericParameters, optional (all [symbol ":", named .bounds]),
    named .whereClause, optional (all [symbol "=", named (.type true)]), symbol ";"]

/-- A type item inside of a trait or an implementation. -/
def memberTypeItem : Rule :=
  all [word "type", ident, named .genericParameters, optional (all [symbol ":", named .bounds]),
    named .whereClause, optional (all [symbol "=", named (.type true)]), named .whereClause,
    symbol ";"]

def namedFields : Rule :=
  group .brace (commaList (all [named .outerAttributes, named .visibility, identOrGap, symbol ":",
    named (.type true)]))

def positionalFields : Rule :=
  group .parenthesis
    (commaList (all [named .outerAttributes, named .visibility, named (.type true)]))

def structItem : Rule :=
  all [word "struct", ident, named .genericParameters,
    any [all [named .whereClause, namedFields],
      all [positionalFields, named .whereClause, symbol ";"],
      all [named .whereClause, symbol ";"]]]

def variant : Rule :=
  all [named .outerAttributes, named .visibility, ident,
    any [namedFields, positionalFields, nothing],
    optional (all [symbol "=", named (.expression true)])]

def enumItem : Rule :=
  all [word "enum", ident, named .genericParameters, named .whereClause,
    group .brace (commaList variant)]

def unionItem : Rule :=
  all [word "union", ident, named .genericParameters, named .whereClause, namedFields]

/-! ## Calls of code generators -/

/-- A call as an item: without braces it ends in a semicolon. -/
def callItem : Rule :=
  all [named .modulePath, symbol "!", optional (any [ident, word "try"]),
    any [anyGroup .brace,
      all [any [anyGroup .parenthesis, anyGroup .bracket], symbol ";"]]]

/-- A definition of a code generator by rules. -/
def generatorItem : Rule :=
  all [word "macro", ident, optional (anyGroup .parenthesis), anyGroup .brace]

/-! ## Traits, implementations and modules -/

/-- Items between braces. -/
def itemsOf (item : Rule) : Rule :=
  group .brace (all [named .innerAttributes, repeated (all [named .outerAttributes, item]), finish])

/-- The items of a trait or an implementation. -/
def memberItems : Rule :=
  itemsOf (any [all [named .visibility, optional (all [word "default", notAhead (symbol "!")]),
      any [function, constantItem, memberTypeItem]],
    callItem])

def traitItem : Rule :=
  all [optional (word "unsafe"), optional (word "auto"), word "trait", ident,
    named .genericParameters,
    any [all [optional (all [symbol ":", named .bounds]), named .whereClause, memberItems],
      all [symbol "=", named .bounds, named .whereClause, symbol ";"]]]

def implementation : Rule :=
  all [optional (word "default"), optional (word "unsafe"), word "impl", named .genericParameters,
    optional (all [optional (symbol "?"), word "const"]),
    optional (all [symbol "!", notAhead (opens .brace)]), named (.type true),
    optional (all [word "for", named (.type true)]), named .whereClause, memberItems]

/-- A module of another language. -/
def foreignModule : Rule :=
  all [optional (word "unsafe"), convention,
    itemsOf (any [all [named .visibility,
        any [foreignFunction, all [optional foreignSafety, staticItem], memberTypeItem]],
      callItem])]

def moduleItem : Rule :=
  all [optional (word "unsafe"), word "mod", ident,
    any [symbol ";", group .brace (all [named .innerAttributes, repeated (named .item), finish])]]

/-- An item. -/
def item : Rule :=
  all [named .outerAttributes,
    any [all [named .visibility,
        any [function, imports, staticItem, constantItem, moduleItem, typeItem, structItem,
          enumItem, unionItem, traitItem, implementation, foreignModule, generatorItem]],
      callItem]]

end NamedConstants.Source.Rule
