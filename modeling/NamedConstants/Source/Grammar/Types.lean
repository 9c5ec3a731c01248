import NamedConstants.Source.Grammar.Notion

/-!
# Types of the source grammar

Types, paths with arguments, bounds, generic parameters and conditions on them.
-/

set_option autoImplicit false

namespace NamedConstants.Source.Rule

open Phrase

/-- The arguments of a path segment in a type. -/
def segmentArguments : Rule :=
  any [all [notAhead (symbol "<="), named .genericArguments],
    all [symbol "::", named .genericArguments],
    all [optional (symbol "::"), group .parenthesis (commaList (named (.type true))),
      optional (all [symbol "->", named (.type false)])],
    notAhead (all [notAhead (symbol "<="), symbol "<"])]

/-- A segment of a path in a type. -/
def typeSegment : Rule :=
  any [oneWord ["super", "self", "crate", "try"], all [any [word "Self", ident], segmentArguments]]

/-- The beginning of a path that names a member of a type. -/
def qualifiedSelf : Rule :=
  all [symbol "<", named (.type true), optional (all [word "as", named .typePath]), symbol ">",
    symbol "::"]

/-- The segments of a path in a type. -/
def typeSegments : Rule :=
  all [typeSegment, repeated (all [symbol "::", typeSegment])]

/-- A path with arguments, as it stands in a type. -/
def typePath : Rule :=
  all [any [qualifiedSelf, optional (symbol "::")], typeSegments]

/-- An argument between angle brackets. -/
def genericArgument : Rule :=
  any [lifetime, literal, all [symbol "-", literal], named .block,
    all [named (.type true),
      any [all [symbol "=", any [literal, named .block, named (.type true)]],
        all [symbol ":", named .bounds], nothing]]]

/-- Arguments between angle brackets. -/
def genericArguments : Rule :=
  all [symbol "<", commaList genericArgument, symbol ">"]

/-- Lifetimes that a type or a bound introduces. -/
def boundLifetimes : Rule :=
  all [word "for", symbol "<",
    commaList (all [named .outerAttributes, lifetime,
      optional (all [symbol ":", listed (symbol "+") lifetime])]),
    symbol ">"]

/-- A bound that is a trait. -/
def traitBound : Rule :=
  let inner : Rule :=
    all [optional (symbol "?"), optional (named .boundLifetimes),
      optional (all [optional (symbol "~"), word "const"]), optional (word "async"),
      optional (symbol "::"), typeSegments]
  any [group .parenthesis inner, inner]

/-- A bound of a type. -/
def bound : Rule := any [lifetime, traitBound]

/-- Bounds with plus signs between them. -/
def bounds : Rule := listed (symbol "+") (named .bound)

/-- Bounds after a type that is one itself. -/
def moreBounds (sums : Bool) : Rule :=
  if sums then all [repeated (all [symbol "+", named .bound]), optional (symbol "+")] else nothing

/-- The bounds of a type that is known by its bounds. One of them is a trait;
`others` are the bounds that are none. -/
def someBounds (others : Rule) (sums : Bool) : Rule :=
  if sums then
    all [repeated (all [others, symbol "+"]), traitBound,
      repeated (all [symbol "+", any [others, traitBound]]), optional (symbol "+")]
  else traitBound

/-- The generic parameters that a type captures. -/
def capture : Rule := all [word "use", named .genericArguments]

/-- The language of a function's calls. -/
def convention : Rule := all [word "extern", optional string]

/-- An argument of a function type. -/
def functionTypeArgument : Rule :=
  all [named .outerAttributes,
    any [symbol "...",
      all [optional (all [any [ident, oneWord ["_", "self"]], symbol ":", notAhead (symbol ":")]),
        any [symbol "...", named (.type true)]]]]

/-- The type of a function. -/
def functionType : Rule :=
  all [optional (word "unsafe"), optional convention, word "fn",
    group .parenthesis (commaList functionTypeArgument),
    optional (all [symbol "->", named (.type false)])]

/-- A type in parentheses, or a tuple of types. -/
def enclosedType (sums : Bool) : Rule :=
  let content : Rule :=
    any [finish,
      all [named (.type true), any [finish, all [symbol ",", commaList (named (.type true))]]],
      someBounds lifetime true]
  all [group .parenthesis content, moreBounds sums]

/-- A type that starts with a path. -/
def pathType (sums : Bool) : Rule :=
  all [named .typePath,
    any [all [symbol "!", notAhead (symbol "="), anyDelimited], moreBounds sums]]

/-- A type. -/
def type (sums : Bool) : Rule :=
  any [enclosedType sums, functionType,
    all [named .boundLifetimes, any [functionType, all [named .typePath, moreBounds sums]]],
    all [word "dyn", optional (symbol "*"), someBounds lifetime sums],
    all [word "impl", someBounds (any [lifetime, capture]) sums],
    pathType sums,
    group .bracket
      (all [named (.type true), optional (all [symbol ";", named (.expression true)])]),
    all [symbol "*", oneWord ["const", "mut"], named (.type false)],
    all [symbol "&", optional lifetime, optional (word "mut"), named (.type false)],
    all [symbol "!", notAhead (symbol "=")],
    word "_",
    all [ahead lifetime, someBounds lifetime sums]]

/-- A parameter between angle brackets. -/
def genericParameter : Rule :=
  all [named .outerAttributes,
    any [all [lifetime, optional (all [symbol ":", listed (symbol "+") lifetime])],
      all [word "const", ident, symbol ":", named (.type true),
        optional (all [symbol "=", any [literal, all [symbol "-", literal], named .block, ident]])],
      all [identOrGap, optional (all [symbol ":", named .bounds]),
        optional (all [symbol "=", named (.type true)])]]]

/-- Parameters between angle brackets, if there are any. -/
def genericParameters : Rule :=
  optional (all [symbol "<", commaList genericParameter, symbol ">"])

/-- A condition on types or lifetimes. -/
def condition : Rule :=
  any [all [lifetime, symbol ":", listed (symbol "+") lifetime],
    all [optional (named .boundLifetimes), named (.type true), symbol ":", named .bounds]]

/-- Conditions on the generic parameters, if there are any. -/
def whereClause : Rule :=
  optional (all [word "where", commaList condition])

end NamedConstants.Source.Rule
