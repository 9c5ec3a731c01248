import NamedConstants.Source.Grammar.Notion

/-!
# Patterns, expressions and statements of the source grammar

Binary operators bind in levels: casts, arithmetic, comparisons, which do not
chain, conjunctions, disjunctions, and last ranges and assignments. An
expression that ends in a block may be a statement without a semicolon.
-/

set_option autoImplicit false

namespace NamedConstants.Source.Rule

open Phrase

/-! ## Patterns -/

/-- A field of a struct pattern. -/
def fieldPattern : Rule :=
  all [named .outerAttributes,
    any [symbol "..",
      all [any [ident, number], symbol ":", notAhead (symbol ":"), named .pattern],
      all [optional (word "box"), optional (word "ref"), optional (word "mut"), ident]]]

/-- The marks of a range in a pattern. -/
def patternRange : Rule := oneSymbol ["..=", "...", ".."]

/-- One end of a range in a pattern. -/
def patternBound : Rule :=
  any [all [optional (symbol "-"), literal], all [word "const", named .block],
    named .expressionPath]

/-- What follows a path in a pattern. -/
def pathPatternEnd : Rule :=
  any [group .brace (commaList fieldPattern), group .parenthesis (commaList (named .pattern)),
    all [symbol "!", notAhead (symbol "="), anyDelimited],
    all [patternRange, optional patternBound], nothing]

/-- What follows an identifier that starts a path. -/
def pathContinues : Rule :=
  any [symbol "::", symbol "!", opens .brace, opens .parenthesis, symbol ".."]

/-- A pattern without alternatives. -/
def singlePattern : Rule :=
  any [word "_",
    all [optional (word "ref"), optional (word "mut"), any [ident, word "self"],
      notAhead pathContinues, optional (all [symbol "@", named .singlePattern])],
    all [word "box", named .singlePattern],
    all [symbol "&", optional (word "mut"), named .singlePattern],
    group .parenthesis (commaList (named .pattern)),
    group .bracket (commaList (named .pattern)),
    all [any [all [optional (symbol "-"), literal], all [word "const", named .block]],
      optional (all [patternRange, optional patternBound])],
    all [named .expressionPath, pathPatternEnd],
    all [oneSymbol ["..=", ".."], optional patternBound]]

/-- A pattern with alternatives. -/
def pattern : Rule :=
  let bar : Rule := all [notAhead (oneSymbol ["||", "|="]), symbol "|"]
  all [optional bar, named .singlePattern, repeated (all [bar, named .singlePattern])]

/-! ## Paths, blocks and loops -/

/-- A segment of a path in an expression. -/
def expressionSegment : Rule :=
  all [pathWord, optional (all [symbol "::", named .genericArguments])]

/-- A path in an expression. -/
def expressionPath : Rule :=
  all [any [all [symbol "<", named (.type true), optional (all [word "as", named .typePath]),
      symbol ">", symbol "::"], optional (symbol "::")],
    expressionSegment, repeated (all [symbol "::", expressionSegment])]

/-- A block of statements. -/
def block : Rule :=
  group .brace (all [named .innerAttributes, repeated (named .statement), finish])

/-- A condition with its blocks. -/
def conditional : Rule :=
  all [word "if", named (.expression false), named .block,
    optional (all [word "else", any [named .conditional, named .block]])]

/-- A loop or a block behind its label. -/
def labelled : Rule :=
  any [all [word "while", named (.expression false), named .block],
    all [word "for", notAhead (symbol "<"), named .pattern, word "in", named (.expression false),
      named .block],
    all [word "loop", named .block], named .block]

/-- The expression is complete with its block, or another mark goes on with
it. -/
def goesOn : Rule :=
  any [all [notAhead (symbol ".."), symbol "."], symbol "?"]

/-- An arm of a match. -/
def arm : Rule :=
  all [named .outerAttributes, named .pattern,
    optional (all [word "if", named (.expression true)]), symbol "=>", named .outerAttributes,
    any [all [named .blockLike, notAhead goesOn, optional (symbol ",")],
      all [named (.expression true), any [symbol ",", ahead finish]]]]

/-- A word that starts an expression that ends in a block. -/
def startsBlockLike : Rule :=
  any [oneWord ["if", "while", "loop", "match"], all [word "for", notAhead (symbol "<")],
    all [oneWord ["unsafe", "const", "try"], opens .brace], opens .brace, lifetime]

/-- An expression that ends in a block. -/
def blockLike : Rule :=
  any [named .conditional,
    all [word "match", named (.expression false),
      group .brace (all [named .innerAttributes, repeated arm, finish])],
    all [oneWord ["unsafe", "const", "try"], named .block],
    all [lifetime, symbol ":", labelled], labelled]

/-! ## Operands -/

/-- A field of a struct expression, or the value that the others are taken
from. -/
def fieldValue : Rule :=
  all [named .outerAttributes,
    any [all [symbol "..", optional (named (.expression true))],
      all [any [ident, number], symbol ":", notAhead (symbol ":"), named (.expression true)],
      ident]]

/-- A path, a call of a code generator, or a struct. -/
def pathOperand (structs : Bool) : Rule :=
  all [named .expressionPath,
    any [all [symbol "!", notAhead (symbol "="), anyDelimited],
      if structs then group .brace (commaList fieldValue) else notAhead nothing,
      nothing]]

/-- A parameter of a closure. -/
def closureParameter : Rule :=
  all [named .outerAttributes, named .singlePattern,
    optional (all [symbol ":", named (.type true)])]

/-- A function without a name. -/
def closure (structs : Bool) : Rule :=
  all [optional (named .boundLifetimes), optional (word "const"), optional (word "static"),
    optional (word "async"), optional (word "move"),
    symbol "|", commaList closureParameter, symbol "|",
    any [all [symbol "->", named (.type false), named .block], named (.expression structs)]]

/-- A tuple, a value in parentheses, or nothing in parentheses. -/
def enclosedOperand : Rule :=
  group .parenthesis (commaList (named (.expression true)))

/-- An array, by its elements or by one element and a length. -/
def arrayOperand : Rule :=
  let element : Rule := named (.expression true)
  group .bracket
    (any [finish,
      all [element, any [all [symbol ";", element],
        all [repeated (all [symbol ",", element]), optional (symbol ",")]]]])

/-- A value that an expression may have at its end. -/
def optionalValue (structs : Bool) : Rule :=
  if structs then optional (named (.expression true))
  else optional (all [notAhead (opens .brace), named (.expression false)])

/-- An operand without what follows it. -/
def operand (structs : Bool) : Rule :=
  any [literal,
    all [word "async", optional (word "move"), named .block],
    closure structs,
    named .blockLike,
    pathOperand structs,
    enclosedOperand,
    all [word "break", optional lifetime, optionalValue structs],
    all [word "continue", optional lifetime],
    all [oneWord ["return", "yield", "become"], optionalValue structs],
    arrayOperand,
    all [word "let", named .pattern, symbol "=", named (.comparison false)],
    all [oneSymbol ["..=", ".."], optional (all [
      if structs then nothing else notAhead (opens .brace), named (.disjunction structs)])],
    word "_"]

/-- A member of a value: a field, a method with its arguments, or a position. -/
def member : Rule :=
  any [word "await", number,
    all [any [ident, oneWord ["self", "Self", "super", "crate"]],
      optional (all [symbol "::", named .genericArguments]),
      optional (group .parenthesis (commaList (named (.expression true))))]]

/-- What follows an operand: members, arguments, positions and question
marks. -/
def trailers : Rule :=
  repeated (any [all [notAhead (symbol ".."), symbol ".", member],
    group .parenthesis (commaList (named (.expression true))),
    group .bracket (named (.expression true)), symbol "?"])

/-- An operand with the operators in front of it and what follows it. -/
def unary (structs : Bool) : Rule :=
  all [named .outerAttributes,
    any [all [symbol "&", optional (any [all [word "raw", oneWord ["const", "mut"]], word "mut"]),
        named (.unary structs)],
      all [oneSymbol ["*", "!", "-"], named (.unary structs)],
      all [operand structs, trailers]]]

/-! ## Operators -/

/-- The operators that assign their result. -/
def assigningOperators : List String :=
  ["<<=", ">>=", "+=", "-=", "*=", "/=", "%=", "^=", "&=", "|="]

def castEnd : Rule := repeated (all [word "as", named (.type false)])

def arithmeticEnd (structs : Bool) : Rule :=
  repeated (all [notAhead (oneSymbol (assigningOperators ++ ["&&", "||"])),
    oneSymbol ["<<", ">>", "+", "-", "*", "/", "%", "^", "&", "|"], named (.cast structs)])

def comparisonEnd (structs : Bool) : Rule :=
  optional (all [notAhead (oneSymbol assigningOperators),
    oneSymbol ["==", "!=", "<=", ">=", "<", ">"], named (.arithmetic structs)])

def conjunctionEnd (structs : Bool) : Rule :=
  repeated (all [symbol "&&", named (.comparison structs)])

def disjunctionEnd (structs : Bool) : Rule :=
  repeated (all [symbol "||", named (.conjunction structs)])

/-- The second end of a range, or the value assigned. -/
def expressionEnd (structs : Bool) : Rule :=
  any [all [oneSymbol assigningOperators, named (.expression structs)],
    all [symbol "=", notAhead (any [symbol "=", symbol ">"]), named (.expression structs)],
    all [oneSymbol ["..=", ".."], optional (all [
      if structs then nothing else notAhead (opens .brace), named (.disjunction structs)])],
    nothing]

/-- The operators that follow an operand. -/
def operators (structs : Bool) : Rule :=
  all [castEnd, arithmeticEnd structs, comparisonEnd structs, conjunctionEnd structs,
    disjunctionEnd structs, expressionEnd structs]

/-! ## Statements -/

/-- A declaration of variables. -/
def declaration : Rule :=
  all [word "let", named .singlePattern, optional (all [symbol ":", named (.type true)]),
    optional (all [symbol "=", named (.expression true),
      optional (all [word "else", named .block])]),
    symbol ";"]

/-- What starts an item inside of a block. -/
def startsItem : Rule :=
  any [oneWord ["pub", "extern", "use", "fn", "mod", "type", "struct", "enum", "trait", "impl",
      "macro"],
    all [word "crate", notAhead (symbol "::")],
    all [word "static", any [word "mut", ident]],
    all [word "const", notAhead (any [opens .brace, oneWord ["static", "move"], symbol "|",
      all [word "async", any [word "move", symbol "|"]]])],
    all [word "unsafe", notAhead (opens .brace)],
    all [word "async", oneWord ["unsafe", "extern", "fn"]],
    all [word "union", ident], all [word "auto", word "trait"],
    all [word "default", oneWord ["unsafe", "impl"]],
    all [named .modulePath, symbol "!", any [ident, word "try"]]]

/-- A call of a code generator with braces, as a statement. -/
def bracedCall : Rule :=
  all [named .modulePath, symbol "!", anyGroup .brace, notAhead goesOn]

/-- An expression as a statement. -/
def expressionStatement : Rule :=
  let ending : Rule := any [symbol ";", ahead finish]
  any [all [ahead startsBlockLike, named .blockLike,
      any [all [ahead goesOn, trailers, operators true, ending], nothing]],
    all [notAhead startsBlockLike, named (.expression true), ending]]

/-- A statement. -/
def statement : Rule :=
  any [symbol ";",
    all [ahead (all [named .outerAttributes, startsItem]), named .item],
    all [named .outerAttributes, notAhead startsItem,
      any [declaration, bracedCall, expressionStatement]]]

end NamedConstants.Source.Rule
