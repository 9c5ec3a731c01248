import NamedConstants.Source.Grammar.Items

/-!
# The source grammar

The phrase of every notion, and matching by the whole grammar.
-/

set_option autoImplicit false

namespace NamedConstants.Source

open Phrase

/-- The phrase that a notion stands for. -/
def grammar : Notion → Rule
  | .outerAttributes => Rule.outerAttributes
  | .innerAttributes => Rule.innerAttributes
  | .visibility => Rule.visibility
  | .modulePath => Rule.modulePath
  | .type sums => Rule.type sums
  | .typePath => Rule.typePath
  | .genericArguments => Rule.genericArguments
  | .bound => Rule.bound
  | .bounds => Rule.bounds
  | .boundLifetimes => Rule.boundLifetimes
  | .genericParameters => Rule.genericParameters
  | .whereClause => Rule.whereClause
  | .pattern => Rule.pattern
  | .singlePattern => Rule.singlePattern
  | .expression structs =>
    all [named (.disjunction structs), Rule.expressionEnd structs]
  | .disjunction structs => all [named (.conjunction structs), Rule.disjunctionEnd structs]
  | .conjunction structs => all [named (.comparison structs), Rule.conjunctionEnd structs]
  | .comparison structs => all [named (.arithmetic structs), Rule.comparisonEnd structs]
  | .arithmetic structs => all [named (.cast structs), Rule.arithmeticEnd structs]
  | .cast structs => all [named (.unary structs), Rule.castEnd]
  | .unary structs => Rule.unary structs
  | .expressionPath => Rule.expressionPath
  | .blockLike => Rule.blockLike
  | .conditional => Rule.conditional
  | .block => Rule.block
  | .statement => Rule.statement
  | .item => Rule.item
  | .signature => Rule.signature
  | .useTree => Rule.useTree

mutual
/-- The number of tokens in a token. -/
def Token.count : Token → Nat
  | .group _ content => countTokens content + 1
  | _ => 1

/-- The number of tokens, those in groups included. -/
def countTokens : List Token → Nat
  | [] => 0
  | head :: rest => head.count + countTokens rest
end

/-- How many rounds suffice to match a phrase against tokens. -/
def roundsFor (tokens : List Token) : Nat :=
  512 * (countTokens tokens + 1)

end NamedConstants.Source
