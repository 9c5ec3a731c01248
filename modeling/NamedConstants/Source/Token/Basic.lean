import NamedConstants.Source.Literal

/-!
# Tokens of source text

A token is a word, a lifetime, a mark, a literal or a group of tokens between
matching delimiters. Marks are single characters; a mark that stands directly
before another one is joined to it, so that marks of several characters can be
recognized. A documentation comment is an attribute like any other.
-/

set_option autoImplicit false

namespace NamedConstants.Source

/-- The delimiters of a group. -/
inductive Delimiter
  | parenthesis
  | bracket
  | brace
  deriving DecidableEq, Repr

/-- A token. -/
inductive Token
  /-- An identifier or a keyword; a raw word is always an identifier. -/
  | word (name : String) (isRaw : Bool)
  | lifetime (name : String)
  | mark (char : Char) (isJoined : Bool)
  | literal (value : Literal)
  | group (delimiter : Delimiter) (content : List Token)
  deriving Repr

/-- The words that are no identifiers unless they are raw. -/
def reservedWords : List String :=
  ["_", "abstract", "as", "async", "await", "become", "box", "break", "const", "continue", "crate",
    "do", "dyn", "else", "enum", "extern", "false", "final", "fn", "for", "if", "impl", "in", "let",
    "loop", "macro", "match", "mod", "move", "mut", "override", "priv", "pub", "ref", "return",
    "Self", "self", "static", "struct", "super", "trait", "true", "try", "type", "typeof", "unsafe",
    "unsized", "use", "virtual", "where", "while", "yield"]

/-- The spelling of a word. -/
def wordText (name : String) (isRaw : Bool) : String :=
  if isRaw then "r#" ++ name else name

namespace Token

/-- The token is the given word, not raw. -/
def isWord (word : String) : Token → Bool
  | .word name false => name == word
  | _ => false

/-- The spelling of an identifier. -/
def ident? : Token → Option String
  | .word name isRaw =>
    if !isRaw && reservedWords.contains name then none else some (wordText name isRaw)
  | _ => none

/-- The token is an identifier. -/
def isIdent (token : Token) : Bool :=
  token.ident?.isSome

/-- The spelling of any word. -/
def anyWord? : Token → Option String
  | .word name isRaw => some (wordText name isRaw)
  | _ => none

/-- The token is a lifetime. -/
def isLifetime : Token → Bool
  | .lifetime _ => true
  | _ => false

/-- The token is a literal or a truth value. -/
def isLiteral : Token → Bool
  | .literal _ => true
  | .word name false => name == "true" || name == "false"
  | _ => false

end Token

end NamedConstants.Source
