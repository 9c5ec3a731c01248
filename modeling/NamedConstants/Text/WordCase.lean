import NamedConstants.Text.Grapheme
import NamedConstants.Text.LetterCase
import NamedConstants.Text.Piece

/-!
# Word case

An identifier is a sequence of words. Underscores, hyphens and spaces separate
words and belong to none; a change of letter case and a change between letters
and digits end a word too. Neighbouring separators have an empty word between
them. The same words written in another case give the names that are derived
from an identifier.
-/

set_option autoImplicit false

namespace NamedConstants.Text

/-- One character as it reads, with the marks that extend it. -/
abbrev Cluster := List Char

namespace Cluster

/-- The cluster stands between words. -/
def separates (cluster : Cluster) : Bool :=
  cluster == ['_'] || cluster == ['-'] || cluster == [' ']

/-- The cluster has two cases. -/
def hasCase (cluster : Cluster) : Bool :=
  toUpper cluster != toLower cluster

/-- The cluster has two cases and is in upper case. -/
def isUpper (cluster : Cluster) : Bool :=
  cluster.hasCase && cluster == toUpper cluster

/-- The cluster has two cases and is in lower case. -/
def isLower (cluster : Cluster) : Bool :=
  cluster.hasCase && cluster == toLower cluster

/-- The cluster is a decimal digit. -/
def isDigit (cluster : Cluster) : Bool :=
  cluster.all Char.isDigit

/-- A word ends between two neighbouring clusters. -/
def changesTo (left right : Cluster) : Bool :=
  (left.isLower && right.isUpper) || (left.isLower && right.isDigit) ||
    (left.isUpper && right.isDigit) || (left.isDigit && right.isLower) ||
    (left.isDigit && right.isUpper)

/-- A word ends after the cluster, seen what follows it. The last capital of a
run of capitals belongs to the lower-case letters after it. -/
def endsWord (cluster : Cluster) : List Cluster → Bool
  | [] => false
  | [next] => cluster.changesTo next
  | next :: afterNext :: _ =>
    cluster.changesTo next || (cluster.isUpper && next.isUpper && afterNext.isLower)

end Cluster

/-- The words of an identifier, given as clusters. -/
def wordsOfClusters : List Cluster → List (List Cluster)
  | [] => [[]]
  | cluster :: rest =>
    if cluster.separates then [] :: wordsOfClusters rest
    else if cluster.endsWord rest then [cluster] :: wordsOfClusters rest
    else
      match wordsOfClusters rest with
      | word :: others => (cluster :: word) :: others
      | [] => [[cluster]]

/-- The words of an identifier. -/
def identifierWords (text : List Char) : List (List Cluster) :=
  wordsOfClusters (clusters text)

/-- A word with its first cluster in upper case and the rest in lower case. -/
def capitalized : List Cluster → List Char
  | [] => []
  | first :: rest => toUpper first ++ toLower rest.flatten

/-- The capitalized words of a text, without anything between them. -/
def pascalCase (text : List Char) : List Char :=
  (identifierWords text).flatMap capitalized

/-- The words of a text in lower case, joined by underscores. -/
def snakeCase (text : List Char) : List Char :=
  join ['_'] ((identifierWords text).map fun word => toLower word.flatten)

/-- The words of a text in upper case, joined by underscores. -/
def upperSnakeCase (text : List Char) : List Char :=
  join ['_'] ((identifierWords text).map fun word => toUpper word.flatten)

/-- The English plural of an upper-case word. -/
def plural (word : List Char) : List Char :=
  let upper := toUpper word
  let endsIn (endings : List String) : Bool := endings.any fun e => e.toList.isSuffixOf upper
  if endsIn ["S", "X", "Z", "CH", "SH"] then word ++ ['E', 'S']
  else if endsIn ["Y"] && !endsIn ["AY", "EY", "IY", "OY", "UY"] && 1 < word.length then
    word.dropLast ++ ['I', 'E', 'S']
  else word ++ ['S']

end NamedConstants.Text
