/-!
# Filter operators

The key of a request parameter starts with the keyword of an operator.  Some keywords begin with
another one, so the operators are listed in the order in which keys are compared with them: the
longer keyword always comes first.
-/

namespace Listing

/-- What a parameter does with the field that it names. -/
inductive Operator where
  /-- Keeps rows whose field is at least the value. -/
  | atLeast
  /-- Keeps rows whose field is at most the value. -/
  | atMost
  /-- Orders the rows by the field. -/
  | sort
  /-- Keeps rows whose field contains the words of the value in order. -/
  | search
  /-- Keeps rows that have a related row for every item of the value. -/
  | hasAll
  /-- Keeps rows that have a related row for some item of the value. -/
  | hasAny
  /-- Keeps rows whose field is none of the items of the value. -/
  | noneOf
  /-- Keeps rows whose field is one of the items of the value. -/
  | anyOf
  /-- Keeps rows whose field starts with the value. -/
  | startsWith
  /-- Runs a callback of the host. -/
  | custom
deriving DecidableEq, Inhabited

namespace Operator

/-- Every operator, in the order in which keys are compared with the keywords. -/
def all : List Operator :=
  [.atLeast, .atMost, .sort, .search, .hasAll, .hasAny, .noneOf, .anyOf, .startsWith, .custom]

@[simp]
theorem mem_all (operator : Operator) : operator ∈ all := by
  cases operator <;> decide

/-- The word that starts the keys of the operator. -/
def keyword : Operator → String
  | atLeast => "from"
  | atMost => "to"
  | sort => "sort"
  | search => "search"
  | hasAll => "where_has_all"
  | hasAny => "where_has"
  | noneOf => "where_not"
  | anyOf => "where"
  | startsWith => "start_with"
  | custom => "filter"

/-- The name of the operator in descriptions of parameters. -/
def label : Operator → String
  | atLeast => "From"
  | atMost => "To"
  | sort => "Sort"
  | search => "Search"
  | hasAll => "WhereHasAll"
  | hasAny => "WhereHas"
  | noneOf => "WhereNot"
  | anyOf => "Where"
  | startsWith => "StartWith"
  | custom => "Filter"

/-- The operator with the given keyword. -/
def ofKeyword? (word : String) : Option Operator :=
  all.find? (·.keyword == word)

/-- No two operators share a keyword. -/
@[simp]
theorem ofKeyword?_keyword (operator : Operator) : ofKeyword? operator.keyword = some operator := by
  cases operator <;> decide

/-- Operators on related rows; their keys have to name a field of the related rows as well. -/
def isRelational : Operator → Bool
  | hasAll | hasAny => true
  | _ => false

/-- Operators whose value is a list of items. -/
def isList : Operator → Bool
  | anyOf | noneOf | hasAny | hasAll => true
  | _ => false

end Operator

end Listing
