import Listing.Json.Basic
import Listing.Request

/-!
# Published descriptions

The description of the paging parameters and of the extent of a page that is published with an
interface, as JSON.
-/

namespace Listing.Schema

/-- A described part of an interface. -/
structure Part where
  name : String
  description : Option String
  /-- The name of the type of the values. -/
  type : String
  example? : Option Int
  /-- Whether a value has to be given. -/
  required : Bool

/-- The fields that describe a number of rows. -/
def rowsFields (type : String) : List (String × Json) :=
  if type = "integer" then [("format", .string "int64"), ("minimum", .ofInt 0)] else []

/-- The fields of a description. -/
def descriptionFields (description : Option String) : List (String × Json) :=
  match description with
  | none => []
  | some text => [("description", .string text)]

/-- A part as a parameter in the query of a request. -/
def Part.parameter (part : Part) : Json :=
  Json.ofFields <|
    [("name", .string part.name), ("in", .string "query"), ("required", .bool part.required),
      ("schema", Json.ofFields (("type", .string part.type) :: rowsFields part.type))] ++
    descriptionFields part.description ++
    match part.example? with
    | none => []
    | some value => [("example", .ofInt value)]

/-- A part as a field of an object. -/
def Part.property (part : Part) : Json :=
  let type : Json :=
    if part.required then .string part.type else .array [.string part.type, .string "null"]
  Json.ofFields (("type", type) :: rowsFields part.type ++ descriptionFields part.description)

/-- An object with the given parts as its fields. -/
def object (description : String) (parts : List Part) : Json :=
  let required := (parts.filter (·.required)).map (·.name)
  Json.ofFields <|
    [("type", .string "object"), ("description", .string description),
      ("properties", Json.ofFields (parts.map fun part => (part.name, part.property)))] ++
    if required.isEmpty then [] else [("required", .array (required.map .string))]

/-- The parameters that choose a page. -/
def pagingParts : List Part := [
  { name := Paging.limitName
    description := some "Maximum number of rows to return."
    type := "integer"
    example? := some 25
    required := false },
  { name := Paging.offsetName
    description := some "Number of rows to skip."
    type := "integer"
    example? := some 0
    required := false },
  { name := Paging.pureName
    description := some "Present to disable eager loading of relations."
    type := "string"
    example? := none
    required := false }]

/-- The fields of the extent of a page. -/
def extentParts : List Part := [
  { name := "limit"
    description := some "Applied page size, `null` when the listing is uncapped."
    type := "integer"
    example? := none
    required := false },
  { name := "offset"
    description := none
    type := "integer"
    example? := none
    required := true },
  { name := "total"
    description := some "Number of rows matching the filters, ignoring `limit` and `offset`."
    type := "integer"
    example? := none
    required := true }]

/-- The paging parameters, one by one. -/
def parameters : Json :=
  .array (pagingParts.map (·.parameter))

/-- The paging parameters as one object. -/
def paging : Json :=
  object ("Pagination and response-shaping parameters accepted next to the filters.\n\n" ++
    "# Pagination\n`limit` is capped by the filter's maximum; `offset` defaults to 0.\n\n" ++
    "# Lean responses\nPassing `pure` (with or without a value) skips loading related records.")
    pagingParts

/-- The extent of a page. -/
def extent : Json :=
  object "Pagination metadata of a filtered listing." extentParts

end Listing.Schema
