import Listing.Operator

/-!
# Failures

A listing fails because its policy is wired wrongly, because a scope is asked for that the query
does not have, or because the store fails.  The host sees the message; the client of a listing sees
only whether the fault lies in the wiring or in the store.
-/

namespace Listing

/-- A failure of the store. -/
inductive StoreError where
  | custom (text : String)
  | notFound (text : String)
  /-- A column of a result row has no value of the kind that is wanted. -/
  | undecodable (column : String)
deriving DecidableEq

/-- What the host is told. -/
def StoreError.message : StoreError → String
  | .custom text => "Custom Error: " ++ text
  | .notFound text => "RecordNotFound Error: " ++ text
  | .undecodable column =>
      "Type Error: A null value was encountered while decoding \"" ++ column ++ "\""

/-- Why a listing fails. -/
inductive Failure where
  /-- The whitelist of an operator has another shape than the operator needs. -/
  | whitelistShape (operator : Operator) (expected : String)
  /-- The query has no scope of this name. -/
  | unknownScope (name : String)
  /-- The store failed. -/
  | store (error : StoreError)
deriving DecidableEq

namespace Failure

/-- What the host is told. -/
def message : Failure → String
  | whitelistShape operator expected =>
      "filterable fields for `" ++ operator.keyword ++ "` must be a " ++ expected ++ " whitelist"
  | unknownScope name => "scope `" ++ name ++ "` is not defined on this query"
  | store error => error.message

/-- What the client of a listing is told. -/
def publicMessage : Failure → String
  | store _ => "Internal Server Error"
  | whitelistShape .. | unknownScope _ => "Filter misconfigured"

/-- The status of the response to a listing that failed. -/
def status (_ : Failure) : Nat :=
  500

end Failure

end Listing
