import Listing.Catalogue.Books
import Listing.Proofs.Sql.Meaning

/-!
# Conditions on related rows

A condition on related rows should hold for the rows to which some row of the relation's table
refers.  It does exactly if that table is not the listed table itself
(`Query.answersRelated_iff_table_ne`): inside the condition the name of the listed table otherwise
means the related row, so that the reference is looked for between two columns of one row.
-/

namespace Listing.Sql

variable {V : Type}

namespace Relation

/-- A row refers to another one: its foreign key has the value of the other one's key. -/
def Refers (relation : Relation) (row outer : TableRow V) : Prop :=
  ∃ v, row relation.foreignKey = some v ∧ outer relation.localKey = some v

/-- Some row of the relation's table refers to the given one and has one of the values in a
column. -/
def HasRelated (relation : Relation) (store : Store V) (column : String) (values : List Datum)
    (outer : TableRow V) : Prop :=
  ∃ row ∈ store.rows relation.table, relation.Refers row outer ∧
    ∃ value ∈ values, row column = some (store.value value)

end Relation

namespace Query

/-- The condition on a relation that is known. -/
def relatedCondition (query : Query) (relation : Relation) (field : String)
    (condition : ColumnRef → Condition) : Condition :=
  .exists relation.table ⟨some relation.table, relation.foreignKey⟩
    (query.column relation.localKey) (condition ⟨some relation.table, field⟩)

theorem keepRelated_of_known {query : Query} {name : String} {relation : Relation}
    (known : Bindings.last? name query.relations = some relation) (field : String)
    (condition : ColumnRef → Condition) :
    query.keepRelated name field condition =
      query.keep (query.relatedCondition relation field condition) := by
  simp only [keepRelated, known, relatedCondition]

theorem keepRelated_of_unknown {query : Query} {name : String}
    (unknown : Bindings.last? name query.relations = none) (field : String)
    (condition : ColumnRef → Condition) :
    query.keepRelated name field condition = query.keep (.constants (.int 1) (.int 0)) := by
  simp only [keepRelated, unknown]

/-- The outer row in view. -/
def outerFrame (query : Query) (outer : TableRow V) : Frame V :=
  ⟨query.entity.table, outer⟩

/-! ## What the condition means -/

/-- Where the tables differ, the condition asks for a row that refers to the outer one. -/
theorem holds_relatedCondition_of_ne {query : Query} {relation : Relation}
    (ne : relation.table ≠ query.entity.table) (store : Store V) (field : String)
    (condition : ColumnRef → Condition) (outer : TableRow V) :
    (query.relatedCondition relation field condition).Holds store [query.outerFrame outer] ↔
      ∃ row ∈ store.rows relation.table, relation.Refers row outer ∧
        (condition ⟨some relation.table, field⟩).Holds store
          [⟨relation.table, row⟩, query.outerFrame outer] := by
  simp only [relatedCondition, Condition.Holds, ColumnRef.cell?_innermost, column, outerFrame,
    ColumnRef.cell?_of_ne ne, Relation.Refers]

/-- Where the tables are the same, the condition asks for a row that refers to itself, whatever the
outer row is. -/
theorem holds_relatedCondition_of_eq {query : Query} {relation : Relation}
    (same : relation.table = query.entity.table) (store : Store V) (field : String)
    (condition : ColumnRef → Condition) (outer : TableRow V) :
    (query.relatedCondition relation field condition).Holds store [query.outerFrame outer] ↔
      ∃ row ∈ store.rows relation.table, relation.Refers row row ∧
        (condition ⟨some relation.table, field⟩).Holds store
          [⟨relation.table, row⟩, query.outerFrame outer] := by
  simp only [relatedCondition, Condition.Holds, ColumnRef.cell?_innermost, column, ← same,
    Relation.Refers]

/-! ## When the condition is right -/

/-- In every database a condition holds for exactly the listed rows that have a related row with one
of the values in a column. -/
def AnswersRelated (query : Query) (relation : Relation) (column : String) (values : List Datum)
    (condition : Condition) : Prop :=
  ∀ (V : Type) (store : Store V), ∀ outer ∈ store.rows query.entity.table,
    condition.Holds store [query.outerFrame outer] ↔
      relation.HasRelated store column values outer

/-- A condition on one column of the related row asks for one of the given values there. -/
def AsksFor (condition : ColumnRef → Condition) (values : List Datum) : Prop :=
  ∀ (V : Type) (store : Store V) (frames : List (Frame V)) (column : ColumnRef),
    (condition column).Holds store frames ↔
      ∃ value ∈ values, column.cell? frames = some (store.value value)

theorem asksFor_isIn (values : List Datum) : AsksFor (.isIn · values) values :=
  fun _ _ _ _ => Iff.rfl

theorem asksFor_equal (value : Datum) : AsksFor (.equal · value) [value] := by
  intro V store frames column
  simp [Condition.Holds]

/-- A database in which every table has two rows, each with one value in all of its columns.  The
value of the first row is none that can be bound. -/
def twoRows (value : Datum) : Store (Option Datum) where
  rows := fun _ => [fun _ => some none, fun _ => some (some value)]
  value := some
  atMost := fun _ _ => False
  like := fun _ _ => False
  ilike := fun _ _ => False
  value_int_injective := fun same => Datum.int.inj (Option.some.inj same)

/-- Where the tables are the same, the second row refers to itself, so that the condition holds for
the first row as well, to which only that row itself refers. -/
theorem exists_holds_not_hasRelated {query : Query} {relation : Relation}
    (same : relation.table = query.entity.table) (field : String)
    {condition : ColumnRef → Condition} {values : List Datum} (asks : AsksFor condition values)
    (values_ne : values ≠ []) :
    ∃ store : Store (Option Datum), ∃ outer ∈ store.rows query.entity.table,
      (query.relatedCondition relation field condition).Holds store [query.outerFrame outer] ∧
        ¬relation.HasRelated store field values outer := by
  obtain ⟨value, value_mem⟩ := List.exists_mem_of_ne_nil values values_ne
  refine ⟨twoRows value, fun _ => some none, List.mem_cons_self, ?_, ?_⟩
  · rw [holds_relatedCondition_of_eq same]
    refine ⟨fun _ => some (some value), ?_, ⟨some value, rfl, rfl⟩, ?_⟩
    · exact List.mem_cons_of_mem _ (List.mem_singleton.mpr rfl)
    · apply (asks _ _ _ _).mpr
      exact ⟨value, value_mem, ColumnRef.cell?_innermost ..⟩
  · rintro ⟨row, row_mem, ⟨v, foreign_eq, localKey_eq⟩, bound, _, bound_eq⟩
    obtain rfl := Option.some.inj localKey_eq
    rcases List.mem_cons.mp row_mem with rfl | row_mem
    · cases bound_eq
    · obtain rfl := List.mem_singleton.mp row_mem
      cases foreign_eq

/-- The condition on related rows is right in every database exactly if the relation's table is not
the listed one. -/
theorem answersRelated_relatedCondition_iff {query : Query} {relation : Relation} {field : String}
    {condition : ColumnRef → Condition} {values : List Datum} (asks : AsksFor condition values)
    (values_ne : values ≠ []) :
    query.AnswersRelated relation field values
        (query.relatedCondition relation field condition) ↔
      relation.table ≠ query.entity.table := by
  constructor
  · intro answersRelated same
    obtain ⟨store, outer, outer_mem, holds, fails⟩ :=
      exists_holds_not_hasRelated same field asks values_ne
    exact fails ((answersRelated (Option Datum) store outer outer_mem).mp holds)
  · intro ne V store outer _
    rw [holds_relatedCondition_of_ne ne]
    apply exists_congr
    intro row
    apply and_congr_right
    intro _
    apply and_congr_right
    intro _
    rw [asks, ColumnRef.cell?_innermost]

/-- Each of the two calls on related rows adds one condition.  If the relation is known, the
condition holds in every database for exactly the rows that have a related row with one of the bound
values, unless the relation leads back to the listed table itself.  If the relation is not known,
the condition holds for no row. -/
theorem answersRelated_iff_table_ne (query : Query) (name column item : String)
    (items : List String) (items_ne : items ≠ []) :
    ∃ among equal,
      query.perform (.hasIn name column items) = .ok (query.keep among) ∧
      query.perform (.hasEq name column item) = .ok (query.keep equal) ∧
      (∀ relation, Bindings.last? name query.relations = some relation →
        (query.AnswersRelated relation column (items.map Datum.loose) among ↔
          relation.table ≠ query.entity.table) ∧
        (query.AnswersRelated relation column [Datum.loose item] equal ↔
          relation.table ≠ query.entity.table)) ∧
      (Bindings.last? name query.relations = none →
        ∀ (V : Type) (store : Store V) (outer : TableRow V),
          ¬among.Holds store [query.outerFrame outer] ∧
            ¬equal.Holds store [query.outerFrame outer]) := by
  cases last_eq : Bindings.last? name query.relations with
  | some relation =>
      refine ⟨_, _, congrArg Except.ok (keepRelated_of_known last_eq _ _),
        congrArg Except.ok (keepRelated_of_known last_eq _ _), ?_, by simp⟩
      intro other other_eq
      obtain rfl := Option.some.inj other_eq
      constructor
      · exact answersRelated_relatedCondition_iff (asksFor_isIn _) (by simpa using items_ne)
      · exact answersRelated_relatedCondition_iff (asksFor_equal _) (List.cons_ne_nil _ _)
  | none =>
      refine ⟨_, _, congrArg Except.ok (keepRelated_of_unknown last_eq _ _),
        congrArg Except.ok (keepRelated_of_unknown last_eq _ _), by simp, ?_⟩
      intro _ V store outer
      exact ⟨Condition.not_holds_constants store (by decide) _,
        Condition.not_holds_constants store (by decide) _⟩

/-- The tags of books are in a table of their own. -/
theorem answersRelated_books_tags :
    let books := Catalogue.Books.query ⟨.sqlite, .ok none, .ok []⟩
    ["rust", "go"] ≠ [] ∧ ∃ among equal,
      books.perform (.hasIn "tags" "name" ["rust", "go"]) = .ok (books.keep among) ∧
      books.perform (.hasEq "tags" "name" "rust") = .ok (books.keep equal) ∧
      books.AnswersRelated ⟨"book_tags", "book_id", "id"⟩ "name"
        [Datum.loose "rust", Datum.loose "go"] among ∧
      books.AnswersRelated ⟨"book_tags", "book_id", "id"⟩ "name" [Datum.loose "rust"] equal := by
  intro books
  have items_ne : ["rust", "go"] ≠ [] := by decide
  obtain ⟨among, equal, among_eq, equal_eq, known, _⟩ :=
    answersRelated_iff_table_ne books "tags" "name" "rust" ["rust", "go"] items_ne
  have right := known ⟨"book_tags", "book_id", "id"⟩ rfl
  have ne : "book_tags" ≠ books.entity.table := by decide
  exact ⟨items_ne, among, equal, among_eq, equal_eq, right.1.mpr ne, right.2.mpr ne⟩

/-- Books whose sequels are books too. -/
def booksWithSequels : Query :=
  (ofEntity ⟨.sqlite, .ok none, .ok []⟩ Catalogue.Books.entity).withRelation "sequels"
    ⟨"books", "prequel_id", "id"⟩

/-- The condition on sequels of a title holds for a book without a sequel. -/
theorem not_answersRelated_sequels :
    ∃ condition,
      booksWithSequels.perform (.hasIn "sequels" "title" ["x"]) =
          .ok (booksWithSequels.keep condition) ∧
        ∃ store : Store (Option Datum), ∃ outer ∈ store.rows booksWithSequels.entity.table,
          condition.Holds store [booksWithSequels.outerFrame outer] ∧
            ¬Relation.HasRelated ⟨"books", "prequel_id", "id"⟩ store "title" [Datum.loose "x"]
              outer := by
  have known : Bindings.last? "sequels" booksWithSequels.relations =
      some ⟨"books", "prequel_id", "id"⟩ := rfl
  refine ⟨_, congrArg Except.ok (keepRelated_of_known known _ _), ?_⟩
  exact exists_holds_not_hasRelated rfl "title" (asksFor_isIn _) (List.cons_ne_nil _ _)

end Query

end Listing.Sql
