import Listing.Proofs.Narrowing
import Listing.Proofs.Sql.PageAgreement

/-!
# The conditions of a selection

Every call adds some conditions to the selection of a query, after those that are there, and never
takes one away.  Which ones it adds depends on the entity, the relations and the scopes of the query
alone, and no call changes these (`Query.attemptAll_conditions`).  The count of a query sees nothing
of it but its conditions.
-/

namespace Listing.Sql

/-! ## Edits -/

namespace Select

/-- The conditions that edits add. -/
def kept (edits : List Edit) : List Condition :=
  edits.filterMap fun
    | .keep condition => some condition
    | _ => none

/-- Edits leave the table and the columns alone and add their conditions at the end. -/
theorem editAll_conditions (select : Select) (edits : List Edit) :
    (select.editAll edits).table = select.table ∧
      (select.editAll edits).columns = select.columns ∧
      (select.editAll edits).conditions = select.conditions ++ kept edits := by
  induction edits generalizing select with
  | nil => exact ⟨rfl, rfl, (List.append_nil _).symm⟩
  | cons edit edits ih =>
      obtain ⟨table_eq, columns_eq, conditions_eq⟩ := ih (select.edit edit)
      refine ⟨table_eq.trans ?_, columns_eq.trans ?_, conditions_eq.trans ?_⟩
      · cases edit <;> rfl
      · cases edit <;> rfl
      · cases edit <;> simp [Select.edit, kept]

/-- The statement that counts looks at nothing but the table, the columns and the conditions. -/
theorem countStatement?_congr {select other : Select} (table_eq : select.table = other.table)
    (columns_eq : select.columns = other.columns)
    (conditions_eq : select.conditions = other.conditions) (dialect : Dialect) :
    select.countStatement? dialect = other.countStatement? dialect := by
  have unpaged_eq : select.unpaged = other.unpaged := by
    simp only [unpaged, table_eq, columns_eq, conditions_eq]
  have expressible : select.isExpressible dialect = other.isExpressible dialect := by
    simp only [isExpressible, conditions_eq]
  rw [countStatement?, countStatement?, unpaged_eq, expressible]

end Select

/-! ## Answers -/

/-- What a connection answers to a statement that counts: the number in its row, and zero if there
is no row. -/
def Connection.counted (connection : Connection) : Except StoreError Nat := do
  match ← connection.countAnswer with
  | none => return 0
  | some row => readCount connection.dialect Select.countColumn row

namespace Query

/-! ## What no call changes -/

/-- Two queries agree in all that no call changes. -/
structure SameBase (query other : Query) : Prop where
  entity : query.entity = other.entity
  connection : query.connection = other.connection
  relations : query.relations = other.relations
  scopes : query.scopes = other.scopes
  table : query.select.table = other.select.table
  columns : query.select.columns = other.select.columns

/-- The conditions that a call adds: those that it gives to a selection without any. -/
def added (query : Query) (call : Call) : List Condition :=
  (Source.attempt { query with select := { query.select with conditions := [] } }
    call).select.conditions

theorem SameBase.trans {query middle other : Query} (first : query.SameBase middle)
    (second : middle.SameBase other) : query.SameBase other :=
  ⟨first.entity.trans second.entity, first.connection.trans second.connection,
    first.relations.trans second.relations, first.scopes.trans second.scopes,
    first.table.trans second.table, first.columns.trans second.columns⟩

theorem SameBase.symm {query other : Query} (base : query.SameBase other) :
    other.SameBase query :=
  ⟨base.entity.symm, base.connection.symm, base.relations.symm, base.scopes.symm,
    base.table.symm, base.columns.symm⟩

/-- A call changes nothing but the selection, the page and the mark for lean responses. -/
theorem attempt_sameBase (query : Query) (call : Call) :
    (Source.attempt query call).SameBase query := by
  cases call with
  | like field pattern operator => cases operator <;> exact ⟨rfl, rfl, rfl, rfl, rfl, rfl⟩
  | hasIn relation field items | hasEq relation field item =>
      simp only [Source.attempt, Source.perform, perform, keepRelated]
      split <;> exact ⟨rfl, rfl, rfl, rfl, rfl, rfl⟩
  | applyScope name arguments =>
      simp only [Source.attempt, Source.perform, perform]
      split
      · rename_i scope scope_eq
        cases last_eq : Bindings.last? name query.scopes with
        | none => simp [last_eq] at scope_eq
        | some scope =>
            simp only [last_eq, Except.ok.injEq] at scope_eq
            subst scope_eq
            obtain ⟨table_eq, columns_eq, _⟩ :=
              Select.editAll_conditions query.select (scope arguments)
            exact ⟨rfl, rfl, rfl, rfl, table_eq, columns_eq⟩
      · exact ⟨rfl, rfl, rfl, rfl, rfl, rfl⟩
  | offset rows | stripPagination =>
      obtain ⟨table_eq, columns_eq, _⟩ := Select.editAll_conditions query.select _
      exact ⟨rfl, rfl, rfl, rfl, table_eq, columns_eq⟩
  | _ => exact ⟨rfl, rfl, rfl, rfl, rfl, rfl⟩

/-- A call that does not narrow the listing leaves the conditions alone. -/
theorem attempt_conditions_of_idle {call : Call} (idle : call.narrows = false) (query : Query) :
    (Source.attempt query call).select.conditions = query.select.conditions := by
  cases call with
  | orderBy | withoutEagerLoading | limit | stripPagination => rfl
  | offset rows =>
      refine (Select.editAll_conditions _ _).2.2.trans ?_
      split
      · exact List.append_nil _
      · split <;> exact List.append_nil _
  | _ => cases idle

theorem added_of_idle {call : Call} (idle : call.narrows = false) (query : Query) :
    query.added call = [] :=
  attempt_conditions_of_idle idle _

theorem attempt_conditions (query : Query) (call : Call) :
    (Source.attempt query call).select.conditions =
      query.select.conditions ++ query.added call := by
  cases narrows : call.narrows with
  | false => rw [added_of_idle narrows, List.append_nil, attempt_conditions_of_idle narrows]
  | true =>
      cases call with
      | like field pattern operator => cases operator <;> rfl
      | hasIn relation field items | hasEq relation field item =>
          simp only [added, Source.attempt, Source.perform, perform, keepRelated]
          split <;> rfl
      | applyScope name arguments =>
          simp only [added, Source.attempt, Source.perform, perform]
          cases Bindings.last? name query.scopes with
          | none => exact (List.append_nil _).symm
          | some scope => simp [Select.editAll_conditions]
      | orderBy | withoutEagerLoading | limit | offset | stripPagination => cases narrows
      | _ => rfl

theorem SameBase.added_eq {query other : Query} (base : query.SameBase other) (call : Call) :
    query.added call = other.added call := by
  obtain ⟨entity_eq, connection_eq, relations_eq, scopes_eq, table_eq, columns_eq⟩ := base
  cases narrows : call.narrows with
  | false => rw [added_of_idle narrows, added_of_idle narrows]
  | true =>
      cases call with
      | like field pattern operator =>
          cases operator <;>
            simp [added, Source.attempt, Source.perform, perform, keep, column, Select.edit,
              entity_eq]
      | hasIn relation field items | hasEq relation field item =>
          simp only [added, Source.attempt, Source.perform, perform, keepRelated, relations_eq]
          split <;> simp [keep, column, Select.edit, entity_eq]
      | applyScope name arguments =>
          simp only [added, Source.attempt, Source.perform, perform, scopes_eq]
          cases Bindings.last? name other.scopes <;> simp [Select.editAll_conditions]
      | orderBy | withoutEagerLoading | limit | offset | stripPagination => cases narrows
      | _ =>
          simp [added, Source.attempt, Source.perform, perform, keep, column, bindAll,
            Select.edit, entity_eq]

/-! ## Runs -/

theorem attemptAll_sameBase (query : Query) (calls : List Call) :
    (Source.attemptAll query calls).SameBase query := by
  induction calls using List.reverseRecOn with
  | nil => exact ⟨rfl, rfl, rfl, rfl, rfl, rfl⟩
  | append_singleton calls call ih =>
      rw [Source.attemptAll_concat]
      exact (attempt_sameBase _ call).trans ih

/-- Calls add their conditions one after the other. -/
theorem attemptAll_conditions (query : Query) (calls : List Call) :
    (Source.attemptAll query calls).select.conditions =
      query.select.conditions ++ calls.flatMap query.added := by
  induction calls using List.reverseRecOn with
  | nil => exact (List.append_nil _).symm
  | append_singleton calls call ih =>
      calc (Source.attemptAll query (calls ++ [call])).select.conditions
        _ = (Source.attempt (Source.attemptAll query calls) call).select.conditions := by
            rw [Source.attemptAll_concat]
        _ = query.select.conditions ++ calls.flatMap query.added ++ query.added call := by
            rw [attempt_conditions, ih, (attemptAll_sameBase query calls).added_eq]
        _ = query.select.conditions ++ (calls ++ [call]).flatMap query.added := by
            simp

theorem flatMap_added_filter (query : Query) (calls : List Call) :
    (calls.filter Call.narrows).flatMap query.added = calls.flatMap query.added := by
  induction calls with
  | nil => rfl
  | cons call calls ih =>
      cases narrows : call.narrows with
      | false =>
          rw [List.filter_cons_of_neg (by simp [narrows]), ih, List.flatMap_cons,
            added_of_idle narrows, List.nil_append]
      | true =>
          rw [List.filter_cons_of_pos narrows, List.flatMap_cons, List.flatMap_cons, ih]

/-! ## The count -/

/-- Without its order and page a query is counted by the same statement as with them. -/
theorem count_strip_eq (query : Query) :
    Source.count (Source.attempt query .stripPagination) =
      executed (query.select.countStatement? query.connection.dialect)
        query.connection.counted := by
  have statement_eq : query.strip.select.countStatement? query.connection.dialect =
      query.select.countStatement? query.connection.dialect :=
    Select.countStatement?_congr rfl rfl rfl _
  rw [← statement_eq]
  rfl

/-- Queries with the same conditions are counted by the same statement, with the same answer. -/
theorem count_strip_congr {query other : Query} (base : query.SameBase other)
    (conditions_eq : query.select.conditions = other.select.conditions) :
    Source.count (Source.attempt query .stripPagination) =
      Source.count (Source.attempt other .stripPagination) := by
  rw [count_strip_eq, count_strip_eq, base.connection,
    Select.countStatement?_congr base.table base.columns conditions_eq]

theorem total_eq_of_conditions_eq {query other : Query} (base : query.SameBase other)
    (conditions_eq : query.select.conditions = other.select.conditions) {page otherPage : Page _}
    (page_eq : (Page.compile query).outcome = .ok page)
    (other_eq : (Page.compile other).outcome = .ok otherPage) :
    page.extent.total = otherPage.extent.total := by
  obtain ⟨total, _, total_eq, _, rfl⟩ := Page.compileWith_outcome_eq_ok_iff.mp page_eq
  obtain ⟨otherTotal, _, otherTotal_eq, _, rfl⟩ := Page.compileWith_outcome_eq_ok_iff.mp other_eq
  rw [count_strip_congr base conditions_eq, otherTotal_eq] at total_eq
  exact (Except.ok.inj total_eq).symm

/-- The first statement that the page of a query executes is the one that counts its rows, if the
database can express it; otherwise none is executed. -/
theorem compile_statements_head? (query : Query) :
    (Page.compile query).statements.head? =
      query.select.countStatement? query.connection.dialect := by
  rw [Page.compile, Page.compileWith, count_strip_eq]
  cases query.select.countStatement? query.connection.dialect with
  | none => rfl
  | some statement =>
      simp only [executed, Run.execute]
      split <;> rfl

end Query

end Listing.Sql
