import Listing.Json.Reader
import Listing.Page
import Listing.Request

/-!
# Records on the wire

How operators, settings, paging and pages are read from JSON and written to it.
-/

namespace Listing

open Json

namespace Operator

/-- Reads an operator by its keyword. -/
def read : Scan Operator :=
  readWord ofKeyword?

/-- The operator as JSON. -/
def toJson (operator : Operator) : Json :=
  .string operator.keyword

end Operator

namespace LikeOperator

/-- Reads an operator by its word. -/
def read : Scan LikeOperator :=
  readWord ofWord?

/-- The operator as JSON. -/
def toJson (operator : LikeOperator) : Json :=
  .string operator.word

end LikeOperator

/-! ## Settings -/

namespace Config

/-- The settings read so far. -/
structure Draft where
  defaultMaxLimit : Option Int := none
  likeOperator : Option LikeOperator := none

/-- Settings that are not given keep their defaults. -/
def record : Record Draft Config where
  fields := [
    { name := "default_max_limit"
      isSet := (·.defaultMaxLimit.isSome)
      read := fun draft text => do
        let (n, rest) ← readBetween Decimal.minSigned Decimal.maxSigned text
        return ({ draft with defaultMaxLimit := some n }, rest) },
    { name := "like_operator"
      isSet := (·.likeOperator.isSome)
      read := fun draft text => do
        let (operator, rest) ← LikeOperator.read text
        return ({ draft with likeOperator := some operator }, rest) }]
  empty := {}
  mayEndEarly := true
  finish? := fun draft => some
    { defaultMaxLimit := draft.defaultMaxLimit.getD 30
      likeOperator := draft.likeOperator.getD .like }

/-- The settings as JSON. -/
def toJson (config : Config) : Json :=
  .object [("default_max_limit", .ofInt config.defaultMaxLimit),
    ("like_operator", config.likeOperator.toJson)]

end Config

/-! ## Paging -/

namespace Paging

/-- The paging read so far; the outer option says whether the field was given. -/
structure Draft where
  limit : Option (Option Nat) := none
  offset : Option (Option Nat) := none
  pure : Option (Option String) := none

/-- Fields that are not given are absent. -/
def record : Record Draft Paging where
  fields := [
    { name := limitName
      isSet := (·.limit.isSome)
      read := fun draft text => do
        let (rows, rest) ← readOption (readNat Decimal.maxUnsigned) text
        return ({ draft with limit := some rows }, rest) },
    { name := offsetName
      isSet := (·.offset.isSome)
      read := fun draft text => do
        let (rows, rest) ← readOption (readNat Decimal.maxUnsigned) text
        return ({ draft with offset := some rows }, rest) },
    { name := pureName
      isSet := (·.pure.isSome)
      read := fun draft text => do
        let (value, rest) ← readOption readString text
        return ({ draft with pure := some value }, rest) }]
  empty := {}
  mayEndEarly := false
  finish? := fun draft => some ⟨draft.limit.join, draft.offset.join, draft.pure.join⟩

end Paging

/-! ## Pages -/

namespace Extent

/-- The extent read so far. -/
structure Draft where
  limit : Option (Option Nat) := none
  offset : Option Nat := none
  total : Option Nat := none

/-- Only the limit may be left out. -/
def record : Record Draft Extent where
  fields := [
    { name := "limit"
      isSet := (·.limit.isSome)
      read := fun draft text => do
        let (rows, rest) ← readOption (readNat Decimal.maxUnsigned) text
        return ({ draft with limit := some rows }, rest) },
    { name := "offset"
      isSet := (·.offset.isSome)
      read := fun draft text => do
        let (rows, rest) ← readNat Decimal.maxUnsigned text
        return ({ draft with offset := some rows }, rest) },
    { name := "total"
      isSet := (·.total.isSome)
      read := fun draft text => do
        let (rows, rest) ← readNat Decimal.maxUnsigned text
        return ({ draft with total := some rows }, rest) }]
  empty := {}
  mayEndEarly := false
  finish? := fun draft =>
    match draft.offset, draft.total with
    | some offset, some total => some ⟨draft.limit.join, offset, total⟩
    | _, _ => none

end Extent

namespace Page

/-- The page read so far. -/
structure Draft (α : Type) where
  extent : Option Extent := none
  data : Option α := none

/-- Both parts are needed. -/
def record {α : Type} (read : Scan α) : Record (Draft α) (Page α) where
  fields := [
    { name := "meta"
      isSet := (·.extent.isSome)
      read := fun draft text => do
        let (extent, rest) ← Extent.record.read text
        return ({ draft with extent := some extent }, rest) },
    { name := "data"
      isSet := (·.data.isSome)
      read := fun draft text => do
        let (data, rest) ← read text
        return ({ draft with data := some data }, rest) }]
  empty := {}
  mayEndEarly := false
  finish? := fun draft =>
    match draft.extent, draft.data with
    | some extent, some data => some ⟨extent, data⟩
    | _, _ => none

/-- Reads a page of bytes. -/
def readBytes : Scan (Page (List Nat)) :=
  (record (readList (readNat 255))).read

end Page

end Listing
