import Listing.Policy
import Listing.Sql.Query

/-!
# A table of gauges

Gauges have a column of every kind.  Requests may choose a page of them and nothing else.
-/

namespace Listing.Catalogue.Gauges

/-- The table of gauges. -/
def entity : Sql.Entity where
  table := "gauges"
  columns := [
    { name := "id", field := "id", kind := .bigInteger },
    { name := "tiny", field := "tiny", kind := .tinyInteger },
    { name := "small", field := "small", kind := .smallInteger },
    { name := "tiny_u", field := "tiny_u", kind := .tinyUnsigned, aliases := ["tinyU"] },
    { name := "small_u", field := "small_u", kind := .smallUnsigned, aliases := ["smallU"] },
    { name := "plain_u", field := "plain_u", kind := .unsigned, aliases := ["plainU"] },
    { name := "big_u", field := "big_u", kind := .bigUnsigned, aliases := ["bigU"] },
    { name := "ratio", field := "ratio", kind := .float },
    { name := "level", field := "level", kind := .double },
    { name := "cost", field := "cost", kind := .decimal },
    { name := "fee", field := "fee", kind := .money },
    { name := "active", field := "active", kind := .boolean },
    { name := "note", field := "note", kind := .text, nullable := true },
    { name := "kindOf", field := "kind", kind := .text, aliases := ["kind"] }]

/-- The query that lists the gauges. -/
def query (connection : Sql.Connection) : Sql.Query :=
  Sql.Query.ofEntity connection entity

/-- A policy that is wired wrongly: sorting has no use for relations. -/
def brokenPolicy : Policy where
  whitelist
    | .sort => .relations [("tags", ["name"])]
    | _ => .empty

end Listing.Catalogue.Gauges
