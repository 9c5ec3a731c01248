import NamedConstants.Source.Token.Basic

/-!
# Phrases

A phrase describes token sequences. It is built from single tokens by sequence,
ordered choice, repetition and look-ahead, and may refer to named phrases, so a
grammar is a function from names to phrases. Matching a phrase at the front of
a token sequence consumes the tokens it describes; the first alternative of a
choice that matches wins, and a repetition takes as much as it can.
-/

set_option autoImplicit false

namespace NamedConstants.Source

/-- A description of token sequences over named phrases. -/
inductive Phrase (Name : Type)
  | nothing
  /-- The end of the sequence. -/
  | finish
  /-- One token. -/
  | token (accepts : Token → Bool)
  /-- A mark of several characters, which are joined. -/
  | mark (chars : List Char)
  /-- A group whose whole content is described. -/
  | group (delimiter : Delimiter) (content : Phrase Name)
  | named (name : Name)
  | sequence (first second : Phrase Name)
  | choice (first second : Phrase Name)
  | repeated (phrase : Phrase Name)
  /-- Consumes nothing and matches where the phrase does. -/
  | ahead (phrase : Phrase Name)
  /-- Consumes nothing and matches where the phrase does not. -/
  | notAhead (phrase : Phrase Name)

namespace Phrase

variable {Name : Type}

/-- Consumes the characters of a mark: all but the last one are joined to the
next. -/
def afterMark? : List Char → List Token → Option (List Token)
  | [], tokens => some tokens
  | [c], .mark char _ :: rest => if c == char then some rest else none
  | c :: next :: chars, .mark char isJoined :: rest =>
    if c == char && isJoined then afterMark? (next :: chars) rest else none
  | _ :: _, _ => none

/-- Matches a phrase at the front of a token sequence and returns what follows.
The first argument bounds the number of nested rounds. -/
def matchWithin? (grammar : Name → Phrase Name) :
    Nat → Phrase Name → List Token → Option (List Token)
  | 0, _, _ => none
  | _ + 1, nothing, tokens => some tokens
  | _ + 1, finish, tokens => if tokens.isEmpty then some [] else none
  | _ + 1, token accepts, tokens =>
    match tokens with
    | head :: rest => if accepts head then some rest else none
    | [] => none
  | _ + 1, mark chars, tokens => afterMark? chars tokens
  | rounds + 1, group delimiter content, tokens =>
    match tokens with
    | .group found inner :: rest =>
      if found == delimiter then
        match matchWithin? grammar rounds content inner with
        | some [] => some rest
        | _ => none
      else none
    | _ => none
  | rounds + 1, named name, tokens => matchWithin? grammar rounds (grammar name) tokens
  | rounds + 1, sequence first second, tokens =>
    match matchWithin? grammar rounds first tokens with
    | some rest => matchWithin? grammar rounds second rest
    | none => none
  | rounds + 1, choice first second, tokens =>
    match matchWithin? grammar rounds first tokens with
    | some rest => some rest
    | none => matchWithin? grammar rounds second tokens
  | rounds + 1, repeated phrase, tokens =>
    match matchWithin? grammar rounds phrase tokens with
    | some rest =>
      if rest.length < tokens.length then matchWithin? grammar rounds (repeated phrase) rest
      else some tokens
    | none => some tokens
  | rounds + 1, ahead phrase, tokens =>
    match matchWithin? grammar rounds phrase tokens with
    | some _ => some tokens
    | none => none
  | rounds + 1, notAhead phrase, tokens =>
    match matchWithin? grammar rounds phrase tokens with
    | some _ => none
    | none => some tokens

/-! ## Composed phrases -/

/-- All the phrases, one after the other. -/
def all : List (Phrase Name) → Phrase Name
  | [] => nothing
  | [phrase] => phrase
  | phrase :: next :: others => sequence phrase (all (next :: others))

/-- The first of the phrases that matches. -/
def any : List (Phrase Name) → Phrase Name
  | [] => notAhead nothing
  | [phrase] => phrase
  | phrase :: next :: others => choice phrase (any (next :: others))

/-- The phrase or nothing. -/
def optional (phrase : Phrase Name) : Phrase Name :=
  choice phrase nothing

/-- A keyword. -/
def word (text : String) : Phrase Name :=
  token (Token.isWord text)

/-- One of several keywords. -/
def oneWord (texts : List String) : Phrase Name :=
  any (texts.map word)

/-- A mark given as a text. -/
def symbol (text : String) : Phrase Name :=
  mark text.toList

/-- One of several marks, the first that is there. -/
def oneSymbol (texts : List String) : Phrase Name :=
  any (texts.map symbol)

/-- Phrases with separators between them; there may be none, and a separator
may follow the last one. -/
def listed (separator phrase : Phrase Name) : Phrase Name :=
  optional (all [phrase, repeated (all [separator, phrase]), optional separator])

/-- A group of any content. -/
def anyGroup (delimiter : Delimiter) : Phrase Name :=
  group delimiter (repeated (token fun _ => true))

/-- A group with any delimiters and any content. -/
def anyDelimited : Phrase Name :=
  any [anyGroup .parenthesis, anyGroup .bracket, anyGroup .brace]

end Phrase

end NamedConstants.Source
