import Listing.Text.Grapheme
import Listing.Text.LetterCase

/-!
# Camel case

One name may be spelled with underscores, hyphens, blanks or inner capitals.  Its words are found
by their boundaries and written again as one word with inner capitals, so that `by_author`,
`by-author` and `byAuthor` share one spelling.
-/

namespace Listing.Text

namespace CamelCase

/-- A cluster that has two forms and is written in capitals. -/
def isUpper (cluster : List Char) : Bool :=
  LetterCase.upper cluster != LetterCase.lower cluster && cluster == LetterCase.upper cluster

/-- A cluster that has two forms and is written in small letters. -/
def isLower (cluster : List Char) : Bool :=
  LetterCase.upper cluster != LetterCase.lower cluster && cluster == LetterCase.lower cluster

/-- A cluster of decimal digits. -/
def isDigit (cluster : List Char) : Bool :=
  cluster.all Char.isDigit

/-- Clusters that separate words and belong to none. -/
def isSeparator (cluster : List Char) : Bool :=
  cluster == ['_'] || cluster == ['-'] || cluster == [' ']

/-- Whether a word ends between two clusters: at a change from small letter to capital, and between
a digit and a letter. -/
def changes (left right : List Char) : Bool :=
  (isLower left && isUpper right) ||
  (isDigit left && (isUpper right || isLower right)) ||
  ((isUpper left || isLower left) && isDigit right)

/-- Whether a word ends before the middle one of three clusters: before the last capital of a run
of capitals that a small letter follows. -/
def endsAcronym (left middle right : List Char) : Bool :=
  isUpper left && isUpper middle && isLower right

/-- Whether a word starts at `cluster`, which stands between the given neighbours. -/
def startsWord (previous : Option (List Char)) (cluster : List Char)
    (next : Option (List Char)) : Bool :=
  match previous, next with
  | none, _ => false
  | some left, none => changes left cluster
  | some left, some right => changes left cluster || endsAcronym left cluster right

/-- The words of a text, as lists of clusters; `word` holds the word being read, in reverse.  Empty
words are left in place. -/
def wordsFrom : Option (List Char) → List (List Char) → List (List Char) →
    List (List (List Char))
  | _, word, [] => [word.reverse]
  | previous, word, cluster :: rest =>
      if isSeparator cluster then word.reverse :: wordsFrom (some cluster) [] rest
      else if startsWord previous cluster rest.head? then
        word.reverse :: wordsFrom (some cluster) [cluster] rest
      else wordsFrom (some cluster) (cluster :: word) rest

/-- The words of a text, none of them empty. -/
def words (text : List Char) : List (List (List Char)) :=
  (wordsFrom none [] (Grapheme.clusters text)).filter (!·.isEmpty)

/-- A word with its first cluster in capitals and the others in small letters. -/
def capitalize : List (List Char) → List Char
  | [] => []
  | cluster :: rest => LetterCase.upper cluster ++ LetterCase.lower rest.flatten

/-- The words run together, the first in small letters and the others capitalized. -/
def ofWords : List (List (List Char)) → List Char
  | [] => []
  | word :: rest => LetterCase.lower word.flatten ++ rest.flatMap capitalize

end CamelCase

/-- The spelling of a name with inner capitals and without separators. -/
def camelCase (name : String) : String :=
  String.ofList (CamelCase.ofWords (CamelCase.words name.toList))

end Listing.Text
