import Listing.Bindings
import Listing.Decimal.Numeral
import Listing.Text.Blank
import Listing.Text.FormUrlencoded

/-!
# Requests

A listing reads nothing of a request but its query string.  The decoded pairs keep their order and
their repetitions; where one value is wanted for a name, the last one counts.
-/

namespace Listing

/-- The query string of a request, still encoded and without the question mark before it. -/
structure Request where
  query : Option String
deriving DecidableEq

/-- Names with their values, in the order of the request. -/
abbrev Pairs : Type :=
  List (String × String)

namespace Request

/-- A request with a query string that may still have question marks in front of it. -/
def ofRaw (raw : Option String) : Request :=
  ⟨raw.map fun query => String.ofList (query.toList.dropWhile (· == '?'))⟩

/-- The decoded pairs of a request. -/
def pairs (request : Request) : Pairs :=
  match request.query with
  | none => []
  | some query =>
      (Text.FormUrlencoded.parse query.toList).map fun (name, value) =>
        (String.ofList name, String.ofList value)

end Request

namespace Pairs

/-- The last value that is given for a name. -/
def input? (pairs : Pairs) (name : String) : Option String :=
  Bindings.last? name pairs

/-- Whether a name is given. -/
def has (pairs : Pairs) (name : String) : Bool :=
  pairs.any (·.1 == name)

end Pairs

/-- The parameters of a request that choose a page. -/
structure Paging where
  /-- The wanted number of rows. -/
  limit : Option Nat
  /-- The number of rows that are passed over. -/
  offset : Option Nat
  /-- Present if related rows are not wanted. -/
  pure : Option String
deriving DecidableEq

namespace Paging

/-- The name of the parameter for the number of rows. -/
def limitName : String :=
  "limit"

/-- The name of the parameter for the number of rows passed over. -/
def offsetName : String :=
  "offset"

/-- The name of the parameter that leaves related rows unloaded. -/
def pureName : String :=
  "pure"

/-- Reads a number of rows, blanks around it left aside. -/
def readRows? (text : String) : Option Nat :=
  Decimal.unsigned? (Text.trim text.toList)

/-- The paging of a request.  Numbers that cannot be read count as absent, and so does a limit of
zero. -/
def ofPairs (pairs : Pairs) : Paging where
  limit := ((pairs.input? limitName).bind readRows?).filter (0 < ·)
  offset := (pairs.input? offsetName).bind readRows?
  pure := pairs.input? pureName

/-- Whether related rows are left unloaded. -/
def isPure (paging : Paging) : Bool :=
  paging.pure.isSome

/-- Related rows are left unloaded exactly if the request names the parameter, whatever its
value. -/
@[simp]
theorem isPure_ofPairs (pairs : Pairs) : (ofPairs pairs).isPure = pairs.has pureName := by
  rw [Bool.eq_iff_iff]
  simp only [isPure, ofPairs, Pairs.input?, Bindings.last?_isSome_iff, Pairs.has, List.any_eq_true,
    beq_iff_eq]
  constructor
  · rintro ⟨value, pair_mem⟩
    exact ⟨_, pair_mem, rfl⟩
  · rintro ⟨⟨name, value⟩, pair_mem, rfl⟩
    exact ⟨value, pair_mem⟩

end Paging

end Listing
