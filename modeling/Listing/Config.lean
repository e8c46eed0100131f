import Listing.Decimal.Numeral
import Listing.Text.Blank
import Listing.Text.LetterCase

/-!
# Settings

Two settings hold for all listings of a process: the page size that applies where a policy gives
none, and whether text is searched with regard to letter case.
-/

namespace Listing

/-- How search patterns are compared with text. -/
inductive LikeOperator where
  | like
  /-- Disregards letter case; only some databases know it. -/
  | ilike
deriving DecidableEq, Inhabited

namespace LikeOperator

/-- The word for the operator in settings. -/
def word : LikeOperator → String
  | like => "like"
  | ilike => "ilike"

/-- The operator with the given word. -/
def ofWord? (word : String) : Option LikeOperator :=
  if word = "like" then some like
  else if word = "ilike" then some ilike
  else none

end LikeOperator

/-- The settings of a process. -/
structure Config where
  /-- The largest page size of policies that set none; there is no largest one below 1. -/
  defaultMaxLimit : Int := 30
  likeOperator : LikeOperator := .like
deriving DecidableEq, Inhabited

namespace Config

/-- Reads a page size, blanks around it left aside. -/
def readLimit? (text : String) : Option Int :=
  Decimal.signed? (Text.trim text.toList)

/-- Reads an operator, blanks around it and its letter case left aside. -/
def readOperator? (text : String) : Option LikeOperator :=
  LikeOperator.ofWord? (String.ofList (Text.LetterCase.lower (Text.trim text.toList)))

/-- The settings given by two environment variables.  A variable that is unset or cannot be read
leaves its default. -/
def ofEnvironment (limit operator : Option String) : Config :=
  { defaultMaxLimit := (limit.bind readLimit?).getD 30
    likeOperator := (operator.bind readOperator?).getD .like }

end Config

end Listing
