import Listing.Call
import Listing.Operator
import Listing.Text.Quoted
import Listing.Text.Split

/-!
# Parameters

A parameter joins an operator, a field or a callback, and the raw text of the request.  The text
is normalized as the operator wants it; where that fails the parameter has no effect.  Otherwise it
stands for the calls it makes on a query.
-/

namespace Listing

/-- What a parameter works on. -/
inductive Target where
  | field (name : String)
  | callback (run : Callback)

/-- One filter instruction of a request. -/
structure Param where
  operator : Operator
  target : Target
  value : Option String
  secondary : Option String

namespace Param

/-- Separates the items of a list. -/
def listDelimiter : Char :=
  ','

/-- Stands for any characters in a search pattern. -/
def wildcard : Char :=
  '%'

/-- A parameter on a field. -/
def onField (operator : Operator) (field : String) (value : Option String) : Param :=
  ⟨operator, .field field, value, none⟩

/-- A parameter that runs a callback. -/
def onCallback (run : Callback) (value : Option String) : Param :=
  ⟨.custom, .callback run, value, none⟩

/-- The parameter with another secondary field. -/
def withSecondary (param : Param) (secondary : Option String) : Param :=
  { param with secondary := secondary }

/-- The field that the parameter works on; a callback works on none. -/
def field? (param : Param) : Option String :=
  match param.target with
  | .field name => some name
  | .callback _ => none

/-! ## Normal forms of values -/

/-- The items of a raw list. -/
def items (raw : String) : List String :=
  (Text.splitOn listDelimiter raw.toList).map String.ofList

/-- The pattern that finds the words of a text in order. -/
def searchPattern (raw : String) : String :=
  String.ofList
    (wildcard :: raw.toList.map (fun c => if c = ' ' then wildcard else c) ++ [wildcard])

/-- The pattern that finds a text at the start. -/
def startPattern (raw : String) : String :=
  String.ofList (raw.toList ++ [wildcard])

/-- The value that an operator makes of a raw text. -/
def normalize (operator : Operator) (raw : String) : Option Value :=
  match operator with
  | .anyOf | .noneOf | .hasAny | .hasAll => some (.list (items raw))
  | .search => some (.text (searchPattern raw))
  | .startsWith => if ' ' ∈ raw.toList then none else some (.text (startPattern raw))
  | .atLeast | .atMost => Value.numeric? raw
  | .sort => if raw = "asc" ∨ raw = "desc" then some (.text raw) else none
  | .custom =>
      some (if raw = "true" then .bool true else if raw = "false" then .bool false else .text raw)

/-- The normal form of the value.  There is none if the value is absent, empty or `null`, or if the
operator cannot use it. -/
def normalized? (param : Param) : Option Value :=
  param.value.bind fun raw =>
    if raw = "" ∨ raw = "null" then none else normalize param.operator raw

/-! ## Effect -/

/-- The secondary field, unless it is empty. -/
def usableSecondary? (param : Param) : Option String :=
  param.secondary.filter (· ≠ "")

/-- The direction that a normalized sort value names. -/
def directionOf (text : String) : Direction :=
  if text = "desc" then .descending else .ascending

/-- The calls of an operator on a field with a normalized value; none if it has no use for them. -/
def fieldCalls? (operator : Operator) (matching : LikeOperator) (field : String)
    (secondary : Option String) (value : Value) : Option (List Call) :=
  match operator, value with
  | .atLeast, value => some [.atLeast field value]
  | .atMost, value => some [.atMost field value]
  | .sort, .text direction => some [.orderBy field (directionOf direction)]
  | .search, .text pattern => some [.like field pattern matching]
  | .startsWith, .text pattern => some [.like field pattern matching]
  | .anyOf, .list items => some [.isIn field items]
  | .noneOf, .list items => some [.notIn field items]
  | .hasAny, .list items => secondary.map fun related => [.hasIn field related items]
  | .hasAll, .list items => secondary.map fun related => items.map (.hasEq field related)
  | _, _ => none

/-- The calls that the parameter makes, under the installed operator for patterns; absent if the
parameter has no effect. -/
def calls? (matching : LikeOperator) (param : Param) : Option (List Call) :=
  param.normalized?.bind fun value =>
    match param.target with
    | .callback run => some (run value param.secondary)
    | .field field => fieldCalls? param.operator matching field param.usableSecondary? value

/-! ## Description -/

/-- The description of an optional text. -/
def describeOption : Option String → String
  | none => "None"
  | some text => "Some(" ++ Text.quoted text ++ ")"

/-- The description of a target. -/
def Target.describe : Target → String
  | .field name => "Field(" ++ Text.quoted name ++ ")"
  | .callback _ => "Callback(..)"

/-- The description of a parameter for diagnostics. -/
def describe (param : Param) : String :=
  "FilterParam \x7b case: " ++ param.operator.label ++ ", target: " ++
    Target.describe param.target ++ ", value: " ++ describeOption param.value ++
    ", secondary_field: " ++ describeOption param.secondary ++ " \x7d"

end Param

end Listing
