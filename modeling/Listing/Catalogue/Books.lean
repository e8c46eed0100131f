import Listing.Memory.Query
import Listing.Policy
import Listing.Sql.Query
import Listing.Text.LetterCase

/-!
# A catalogue of books

The same catalogue is listed from rows held in memory and from a table.  Books in memory have tags
and authors as related rows; in the store the tags are a table of their own.
-/

namespace Listing.Catalogue.Books

/-! ## Books in memory -/

/-- A related row with one field. -/
def relatedRow (field value : String) : Json :=
  .object [(field, .string value)]

/-- A stored book, its fields in ascending order. -/
def book (id : Int) (title : String) (price year : Int) (status genre : String) (published : Bool)
    (tags roles : List String) : Memory.Row := [
  ("authors", .array (roles.map (relatedRow "role"))),
  ("genre_code", .string genre),
  ("id", .ofInt id),
  ("price", .ofInt price),
  ("published", .bool published),
  ("status", .string status),
  ("tags", .array (tags.map (relatedRow "name"))),
  ("title", .string title),
  ("year", .ofInt year)]

/-- The stored books. -/
def stored : List Memory.Row := [
  book 1 "Rust in Action" 40 2021 "published" "TECH" true ["rust", "systems"] ["author"],
  book 2 "Rust Atomics" 30 2023 "published" "TECH" true ["rust"] ["editor"],
  book 3 "Cooking Basics" 8 2015 "draft" "FOOD" false ["food"] [],
  book 4 "Systems Thinking" 25 2008 "archived" "SCI" true ["systems"] ["author", "editor"],
  book 5 "Cheap Tricks" 5 2019 "published" "FUN" true [] []]

/-- Keeps books up to a price of ten if the value is true. -/
def cheap : Callback
  | .bool true, _ => [.atMost "price" (.integer 10)]
  | _, _ => []

/-- Keeps books with a related row of the given role, an author unless another relation is
named. -/
def byAuthorRole : Callback := fun value secondary =>
  [.hasEq (secondary.getD "authors") "role" value.display]

/-- Keeps books of a genre, whose code is written in capitals. -/
def genre : Callback := fun value _ =>
  [.isIn "genre_code" [String.ofList (Text.LetterCase.upper value.display.toList)]]

/-- What requests may do with the books in memory. -/
def policy : Policy where
  whitelist
    | .atLeast | .atMost => .fields ["price", "year"]
    | .sort => .fields ["title", "price", "year"]
    | .search | .startsWith => .fields ["title"]
    | .anyOf | .noneOf => .fields ["status", "id"]
    | .hasAny | .hasAll => .relations [("tags", ["name"]), ("authors", ["role"])]
    | .custom => .empty
  registry :=
    ((Registry.empty.custom "cheap" cheap).custom "by_author_role" byAuthorRole).override
      .anyOf "genre" genre
  defaultSorting := [.orderBy "id" .ascending]

/-! ## Books in a table -/

/-- The table of books. -/
def entity : Sql.Entity where
  table := "books"
  columns := [
    { name := "id", field := "id", kind := .integer },
    { name := "title", field := "title", kind := .text },
    { name := "price", field := "price", kind := .integer },
    { name := "status", field := "status", kind := .text },
    { name := "published", field := "published", kind := .boolean }]

/-- What requests may do with the table of books. -/
def tablePolicy : Policy where
  whitelist
    | .atLeast | .atMost => .fields ["price"]
    | .sort => .fields ["title", "price"]
    | .search | .startsWith => .fields ["title"]
    | .anyOf => .fields ["status", "id", "published"]
    | .noneOf => .fields ["status"]
    | .hasAny | .hasAll => .relations [("tags", ["name"])]
    | .custom => .empty
  defaultSorting := [.orderBy "id" .ascending]

/-- Keeps published books, or unpublished ones if the argument is false. -/
def publishedScope : Sql.Scope := fun arguments =>
  let wanted :=
    match arguments.head? with
    | some (.bool b) => b
    | _ => true
  [.keep (.equal ⟨some entity.table, "published"⟩ (.bool wanted))]

/-- The query that lists the table of books. -/
def query (connection : Sql.Connection) : Sql.Query :=
  ((Sql.Query.ofEntity connection entity).withRelation "tags"
    ⟨"book_tags", "book_id", "id"⟩).withScope "published" publishedScope

end Listing.Catalogue.Books
