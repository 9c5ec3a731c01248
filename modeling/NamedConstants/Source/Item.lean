import NamedConstants.Source.Grammar.Rules
import NamedConstants.Source.Token.Reader
import NamedConstants.Text.Quoted

/-!
# Items of a source file

The items that declare families are kept with what matters of them: the
documentation, the identifier, and the form of the type and the value. Every
other item is only checked against the grammar. A file is read if all of it
follows the grammar.
-/

set_option autoImplicit false

namespace NamedConstants.Source

/-! ## Types and values by their form -/

/-- The form of a type. -/
inductive TypeForm
  | name (ident : String)
  | reference (lifetime : Option String) (target : TypeForm)
  | slice (element : TypeForm)
  | enclosed (inner : TypeForm)
  | other
  deriving DecidableEq, Repr

namespace TypeForm

/-- The form of the type that the tokens spell. A reference that allows changes
has no constants. -/
def ofTokens : List Token → TypeForm
  | [.word ident isRaw] => if !isRaw && ident == "_" then other else name (wordText ident isRaw)
  | [.group .bracket inner] => slice (ofTokens inner)
  | [.group .parenthesis inner] => enclosed (ofTokens inner)
  | .mark '&' _ :: .lifetime _ :: .word "mut" false :: _ => other
  | .mark '&' _ :: .word "mut" false :: _ => other
  | .mark '&' _ :: .lifetime lifetime :: rest => reference (some lifetime) (ofTokens rest)
  | .mark '&' _ :: rest => reference none (ofTokens rest)
  | _ => other

/-- The text of a type that a family can have; blanks stand only behind a
lifetime. -/
def text? : TypeForm → Option String
  | name ident => some ident
  | enclosed inner => inner.text?
  | reference lifetime (slice element) =>
    element.text?.map fun text => "&" ++ lifetimeText lifetime ++ "[" ++ text ++ "]"
  | reference lifetime target =>
    target.text?.map fun text => "&" ++ lifetimeText lifetime ++ text
  | slice _ => none
  | other => none
where
  lifetimeText : Option String → String
    | some lifetime => "'" ++ lifetime ++ " "
    | none => ""

end TypeForm

/-- The form of a value. -/
inductive ValueForm
  | literal (value : Literal)
  | boolean (value : Bool)
  | negation (operand : ValueForm)
  | enclosed (inner : ValueForm)
  | other
  deriving DecidableEq, Repr

namespace ValueForm

/-- The form of the expression that the tokens spell. Attributes do not
count. -/
def ofTokens : List Token → ValueForm
  | [.literal value] => literal value
  | [.word "true" false] => boolean true
  | [.word "false" false] => boolean false
  | [.group .parenthesis inner] => enclosed (ofTokens inner)
  | .mark '-' _ :: rest => negation (ofTokens rest)
  | .mark '#' _ :: .group .bracket _ :: rest => ofTokens rest
  | _ => other

/-- The text of a literal, in parentheses or with minus signs in front. -/
def text? : ValueForm → Option String
  | literal (.integer digits) => some (String.ofList digits)
  | literal (.float digits) => some (String.ofList digits)
  | literal (.string text) => some (String.ofList (Text.quoted text))
  | literal (.bytes content) => some (String.ofList (Text.quotedBytes content))
  | literal .other => none
  | boolean value => some (if value then "true" else "false")
  | negation operand => operand.text?.map ("-" ++ ·)
  | enclosed inner => inner.text?
  | other => none

end ValueForm

/-! ## Items -/

/-- An alias of a type. -/
structure Alias where
  /-- The documentation, a text for every attribute. -/
  docs : List String
  ident : String
  target : TypeForm
  deriving DecidableEq, Repr

/-- A constant with its value. -/
structure ConstantItem where
  /-- The documentation, a text for every attribute. -/
  docs : List String
  ident : String
  type : TypeForm
  value : ValueForm
  deriving DecidableEq, Repr

/-- An item of a file. -/
inductive Item
  | alias (item : Alias)
  | constant (item : ConstantItem)
  | other
  deriving DecidableEq, Repr

/-- The documentation that an attribute holds. -/
def docOfAttribute? : List Token → Option String
  | [.word "doc" false, .mark '=' _, .literal (.string text)] => some (String.ofList text)
  | _ => none

/-- The documentation of the attributes in front. -/
def docsOf : List Token → List String
  | .mark '#' _ :: .group .bracket content :: rest =>
    (docOfAttribute? content).toList ++ docsOf rest
  | _ => []

/-- Matches a phrase and returns what follows it. -/
def after? (rounds : Nat) (rule : Rule) (tokens : List Token) : Option (List Token) :=
  Phrase.matchWithin? grammar rounds rule tokens

/-- Matches a phrase and returns the tokens it describes and what follows. -/
def taken? (rounds : Nat) (rule : Rule) (tokens : List Token) :
    Option (List Token × List Token) :=
  (after? rounds rule tokens).map fun rest => (tokens.take (tokens.length - rest.length), rest)

/-- The identifier in front. -/
def identAhead? : List Token → Option (String × List Token)
  | token :: rest => token.anyWord?.map fun ident => (ident, rest)
  | [] => none

/-- Reads the alias of a type behind its visibility, without documentation. An
item with bounds or without a type declares no alias. -/
def alias? (rounds : Nat) (tokens : List Token) : Option (String × TypeForm) := do
  let rest ← after? rounds (.word "type") tokens
  let (ident, rest) ← identAhead? rest
  let rest ← after? rounds
    (.all [.named .genericParameters, .named .whereClause, .symbol "="]) rest
  let (target, _) ← taken? rounds (.named (.type true)) rest
  return (ident, .ofTokens target)

/-- Reads a constant behind its visibility, without documentation. A constant
with parameters or without a value declares none. -/
def constant? (rounds : Nat) (tokens : List Token) :
    Option (String × TypeForm × ValueForm) := do
  let rest ← after? rounds
    (.all [.notAhead (.named .signature), .word "const"]) tokens
  let (ident, rest) ← identAhead? rest
  let rest ← after? rounds (.all [.symbol ":"]) rest
  let (type, rest) ← taken? rounds (.named (.type true)) rest
  let rest ← after? rounds (.symbol "=") rest
  let (value, rest) ← taken? rounds (.named (.expression true)) rest
  let _ ← after? rounds (.symbol ";") rest
  return (ident, .ofTokens type, .ofTokens value)

/-- What an item declares, given its tokens. -/
def Item.ofTokens (rounds : Nat) (tokens : List Token) : Item :=
  let docs := docsOf tokens
  match after? rounds (.all [.named .outerAttributes, .named .visibility]) tokens with
  | none => .other
  | some rest =>
    match alias? rounds rest, constant? rounds rest with
    | some (ident, target), _ => .alias ⟨docs, ident, target⟩
    | none, some (ident, type, value) => .constant ⟨docs, ident, type, value⟩
    | none, none => .other

/-- Reads items up to the end. Every item has tokens, so the number of tokens
bounds the number of items. -/
def items? (rounds : Nat) : Nat → List Token → Option (List Item)
  | _, [] => some []
  | 0, _ :: _ => none
  | count + 1, tokens => do
    let (own, rest) ← taken? rounds (.named .item) tokens
    return .ofTokens rounds own :: (← items? rounds count rest)

/-- Reads the items of a file. -/
def fileItems? (text : List Char) : Option (List Item) := do
  let tokens ← fileTokens? text
  let rounds := roundsFor tokens
  items? rounds tokens.length (← after? rounds (.named .innerAttributes) tokens)

end NamedConstants.Source
