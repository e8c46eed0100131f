import Listing.Catalogue.Books
import Listing.Catalogue.Gauges
import Listing.Engine
import Listing.Json.Printer
import Listing.Uri

/-!
# Endpoints

A list endpoint answers a request with the page that its engine makes, as JSON.  A failure becomes a
response as well, which tells the client no more than where the fault lies.
-/

namespace Listing

/-- A response to a request. -/
structure Response where
  status : Nat
  contentType : Option String
  body : String
deriving DecidableEq

namespace Response

/-- A response whose body is JSON. -/
def ofJson (status : Nat) (value : Json) : Response :=
  ⟨status, some "application/json", value.compress⟩

/-- The response to a failure. -/
def ofFailure (failure : Failure) : Response :=
  ofJson failure.status (.string failure.publicMessage)

/-- The response where there is no endpoint. -/
def notFound : Response :=
  ⟨404, none, ""⟩

end Response

/-- A list endpoint: the path it answers, its policy and its query. -/
structure Endpoint where
  path : String
  policy : Policy
  query : Sql.Connection → Sql.Query

namespace Endpoint

/-- The endpoints of the catalogue. -/
def all : List Endpoint := [
  ⟨"/books", Catalogue.Books.tablePolicy, Catalogue.Books.query⟩,
  ⟨"/gauges", .basic, Catalogue.Gauges.query⟩,
  ⟨"/broken", Catalogue.Gauges.brokenPolicy, Catalogue.Gauges.query⟩]

/-- The page that an endpoint lists. -/
def page (endpoint : Endpoint) (config : Config) (connection : Sql.Connection)
    (request : Request) : Run (Page (List Json)) := do
  let engine ← Run.ofExcept (Engine.ofRequest? endpoint.policy request)
  engine.response config (endpoint.query connection)

/-- The response of an endpoint.  Only a statement that cannot be expressed leaves a request without
a response. -/
def respond (endpoint : Endpoint) (config : Config) (connection : Sql.Connection)
    (request : Request) : Run Response :=
  let run := endpoint.page config connection request
  { statements := run.statements
    outcome :=
      match run.outcome with
      | .ok page => .ok (.ofJson 200 (page.toJson .array))
      | .error (.failed reason) => .ok (.ofFailure reason)
      | .error .inexpressible => .error .inexpressible }

/-- The response to a request for a target. -/
def serve (config : Config) (connection : Sql.Connection) (uri : Uri) : Run Response :=
  match all.find? (·.path == uri.path) with
  | none => .done .notFound
  | some endpoint => endpoint.respond config connection uri.extracted

end Endpoint

end Listing
