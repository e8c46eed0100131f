import Listing.Catalogue.Books
import Listing.Page
import Listing.Proofs.Application
import Listing.Proofs.CallHistory
import Mathlib.Data.List.Induction

/-!
# The page of a selection and the reported page

A query on a table keeps its page twice: as limit and offset of its selection, and as the limit and
offset that it reports.  `Query.Follows` says what both copies are after any calls.  The reported
copy is what was last set since the last removal.  The copy in the selection misses an offset of
zero, so that the two agree unless an offset of zero follows a positive one
(`Query.pageAgrees_iff`).
-/

namespace Listing.Sql

/-! ## Edits that leave the page alone -/

/-- Whether an edit only adds a condition. -/
def Edit.isKeep : Edit → Bool
  | .keep _ => true
  | _ => false

theorem Select.editAll_page {edits : List Edit} (allKeep : ∀ edit ∈ edits, edit.isKeep)
    (select : Select) :
    (select.editAll edits).limit = select.limit ∧
      (select.editAll edits).offset = select.offset := by
  induction edits generalizing select with
  | nil => exact ⟨rfl, rfl⟩
  | cons edit edits ih =>
      have rest := ih (fun other other_mem => allKeep other (List.mem_cons_of_mem edit other_mem))
        (select.edit edit)
      cases edit with
      | keep condition => exact rest
      | _ => simpa [Edit.isKeep] using allKeep _ List.mem_cons_self

namespace Query

/-- A query on which no call was made. -/
def fresh (connection : Connection) (entity : Entity) (relations : List (String × Relation))
    (scopes : List (String × Scope)) : Query :=
  { ofEntity connection entity with relations := relations, scopes := scopes }

/-- Every scope of the query only adds conditions. -/
def ScopesKeep (query : Query) : Prop :=
  ∀ entry ∈ query.scopes, ∀ arguments, ∀ edit ∈ entry.2 arguments, edit.isKeep

/-- The two copies of the page: the reported limit and offset, and those of the selection. -/
def pageState (query : Query) : (Option Nat × Option Nat) × (Option Nat × Option Nat) :=
  ((query.limit, query.offset), (query.select.limit, query.select.offset))

/-- An offset leaves the limit of the selection alone, unless it is positive and no limit was
set. -/
theorem select_limit_setOffset (query : Query) (rows : Nat) :
    (query.setOffset rows).select.limit =
      if 0 < rows ∧ query.limit = none then some unboundedLimit else query.select.limit := by
  rcases Nat.eq_zero_or_pos rows with rfl | positive
  · rfl
  · simp only [setOffset, if_neg (Nat.ne_of_gt positive), positive, true_and]
    cases query.limit <;> rfl

theorem select_offset_setOffset (query : Query) (rows : Nat) :
    (query.setOffset rows).select.offset = if 0 < rows then some rows else query.select.offset := by
  rcases Nat.eq_zero_or_pos rows with rfl | positive
  · rfl
  · simp only [setOffset, if_neg (Nat.ne_of_gt positive), positive, if_true]
    cases query.limit <;> rfl

@[simp]
theorem attempt_scopes (query : Query) (call : Call) :
    (Source.attempt query call).scopes = query.scopes := by
  cases call with
  | like field pattern operator => cases operator <;> rfl
  | hasIn relation field items | hasEq relation field item =>
      simp only [Source.attempt, Source.perform, perform, keepRelated]
      split <;> rfl
  | applyScope name arguments =>
      simp only [Source.attempt, Source.perform, perform]
      cases Bindings.last? name query.scopes <;> rfl
  | _ => rfl

instance : LawfulSource Query Json where
  hasScope query name := (Bindings.last? name query.scopes).isSome
  hasScope_attempt query call := by simp only [attempt_scopes]
  perform_applyScope query name arguments := by
    cases scope_eq : Bindings.last? name query.scopes <;>
      simp [Source.attempt, Source.perform, perform, scope_eq]
  pagination_limit query rows := rfl
  pagination_offset query rows := rfl

/-- Only calls that set or remove a limit or an offset change either copy of the page. -/
theorem attempt_pageState {query : Query} (scopesKeep : query.ScopesKeep) {call : Call}
    (keeps : call.isStrip = false) (limit_eq : call.limit? = none)
    (offset_eq : call.offset? = none) :
    (Source.attempt query call).pageState = query.pageState := by
  cases call with
  | limit rows => simp [Call.limit?] at limit_eq
  | offset rows => simp [Call.offset?] at offset_eq
  | stripPagination => simp [Call.isStrip] at keeps
  | like field pattern operator => cases operator <;> rfl
  | hasIn relation field items | hasEq relation field item =>
      simp only [Source.attempt, Source.perform, perform, keepRelated]
      split <;> rfl
  | applyScope name arguments =>
      simp only [Source.attempt, Source.perform, perform]
      cases scope_eq : Bindings.last? name query.scopes with
      | none => rfl
      | some scope =>
          obtain ⟨before, after, entries_eq, _⟩ := Bindings.last?_eq_some_iff.mp scope_eq
          have allKeep : ∀ edit ∈ scope arguments, edit.isKeep :=
            scopesKeep (name, scope) (by simp [entries_eq]) arguments
          obtain ⟨limit_eq, offset_eq⟩ := Select.editAll_page allKeep query.select
          simp only [pageState, limit_eq, offset_eq]
  | _ => rfl

/-! ## Both copies after any calls -/

/-- Both copies of the page as they are after the given calls.  The selection has the last positive
offset.  Where no limit was set, a positive offset has left the unbounded limit in the selection. -/
structure Follows (calls : List Call) (query : Query) : Prop where
  limit : query.limit = (Call.limits calls).getLast?
  offset : query.offset = (Call.offsets calls).getLast?
  selectOffset : query.select.offset = ((Call.offsets calls).filter (0 < ·)).getLast?
  selectLimit_of_some : ∀ rows, query.limit = some rows → query.select.limit = some rows
  selectLimit_of_none : query.limit = none →
    query.select.limit = query.select.offset.map fun _ => unboundedLimit

theorem Follows.congr {calls others : List Call} {query other : Query}
    (follows : Follows calls query) (limits_eq : Call.limits others = Call.limits calls)
    (offsets_eq : Call.offsets others = Call.offsets calls)
    (page_eq : other.pageState = query.pageState) : Follows others other := by
  simp only [pageState, Prod.mk.injEq] at page_eq
  obtain ⟨⟨limit_eq, offset_eq⟩, selectLimit_eq, selectOffset_eq⟩ := page_eq
  constructor
  · rw [limits_eq, limit_eq, follows.limit]
  · rw [offsets_eq, offset_eq, follows.offset]
  · rw [offsets_eq, selectOffset_eq, follows.selectOffset]
  · rw [limit_eq, selectLimit_eq]
    exact follows.selectLimit_of_some
  · rw [limit_eq, selectLimit_eq, selectOffset_eq]
    exact follows.selectLimit_of_none

theorem follows_fresh (connection : Connection) (entity : Entity)
    (relations : List (String × Relation)) (scopes : List (String × Scope)) :
    Follows [] (fresh connection entity relations scopes) := by
  constructor <;> simp [fresh, ofEntity, Call.limits, Call.offsets, Call.sinceStrip]

theorem Follows.setLimit {calls : List Call} {query : Query} (follows : Follows calls query)
    (rows : Nat) : Follows (calls ++ [.limit rows]) (query.setLimit rows) := by
  constructor
  · rw [Call.limits_concat_limit, List.getLast?_concat]
    rfl
  · rw [Call.offsets_concat_limit]
    exact follows.offset
  · rw [Call.offsets_concat_limit]
    exact follows.selectOffset
  · intro other other_eq
    exact other_eq
  · intro eq_none
    simp [Query.setLimit] at eq_none

/-- An offset of zero reaches only the reported copy. -/
theorem Follows.setOffset_zero {calls : List Call} {query : Query}
    (follows : Follows calls query) :
    Follows (calls ++ [.offset 0]) (query.setOffset 0) := by
  constructor
  · rw [Call.limits_concat_offset]
    exact follows.limit
  · rw [Call.offsets_concat_offset, List.getLast?_concat]
    rfl
  · rw [Call.offsets_concat_offset, List.filter_append, List.filter_cons_of_neg (by simp),
      List.filter_nil, List.append_nil]
    exact follows.selectOffset
  · exact follows.selectLimit_of_some
  · exact follows.selectLimit_of_none

/-- A positive offset reaches both copies, and the selection gets the unbounded limit with it if no
limit was set. -/
theorem Follows.setOffset_of_pos {calls : List Call} {query : Query}
    (follows : Follows calls query) {rows : Nat} (positive : 0 < rows) :
    Follows (calls ++ [.offset rows]) (query.setOffset rows) := by
  have zero_ne : rows ≠ 0 := Nat.pos_iff_ne_zero.mp positive
  constructor
  · rw [Call.limits_concat_offset]
    exact follows.limit
  · rw [Call.offsets_concat_offset, List.getLast?_concat]
    rfl
  · rw [Call.offsets_concat_offset, List.filter_append,
      List.filter_cons_of_pos (by simpa using positive), List.filter_nil, List.getLast?_concat]
    cases limit_eq : query.limit <;>
      simp [Query.setOffset, zero_ne, limit_eq, Select.editAll, Select.edit]
  · intro limit limit_eq
    have before_eq : query.limit = some limit := limit_eq
    simpa [Query.setOffset, zero_ne, before_eq, Select.editAll, Select.edit] using
      follows.selectLimit_of_some limit before_eq
  · intro limit_eq
    have before_eq : query.limit = none := limit_eq
    simp [Query.setOffset, zero_ne, before_eq, Select.editAll, Select.edit]

theorem follows_strip (calls : List Call) (query : Query) :
    Follows (calls ++ [.stripPagination]) query.strip := by
  constructor <;> simp [strip, Select.editAll, Select.edit]

theorem Follows.attempt {calls : List Call} {query : Query} (follows : Follows calls query)
    (scopesKeep : query.ScopesKeep) (call : Call) :
    Follows (calls ++ [call]) (Source.attempt query call) := by
  by_cases strips : call.isStrip
  · cases call with
    | stripPagination => exact follows_strip calls query
    | _ => simp [Call.isStrip] at strips
  · have keeps : call.isStrip = false := by simpa using strips
    by_cases setsNothing : call.limit? = none ∧ call.offset? = none
    · apply follows.congr
      · rw [Call.limits_concat keeps, setsNothing.1, Option.toList_none, List.append_nil]
      · rw [Call.offsets_concat keeps, setsNothing.2, Option.toList_none, List.append_nil]
      · exact attempt_pageState scopesKeep keeps setsNothing.1 setsNothing.2
    · cases call with
      | limit rows => exact follows.setLimit rows
      | offset rows =>
          rcases Nat.eq_zero_or_pos rows with rfl | positive
          · exact follows.setOffset_zero
          · exact follows.setOffset_of_pos positive
      | _ => simp [Call.limit?, Call.offset?] at setsNothing

@[simp]
theorem attemptAll_scopes (query : Query) (calls : List Call) :
    (Source.attemptAll query calls).scopes = query.scopes := by
  induction calls generalizing query with
  | nil => rfl
  | cons call calls ih => exact (ih (Source.attempt query call)).trans (attempt_scopes query call)

theorem follows_attemptAll {connection : Connection} {entity : Entity}
    {relations : List (String × Relation)} {scopes : List (String × Scope)}
    (scopesKeep : (fresh connection entity relations scopes).ScopesKeep) (calls : List Call) :
    Follows calls (Source.attemptAll (fresh connection entity relations scopes) calls) := by
  induction calls using List.reverseRecOn with
  | nil => exact follows_fresh connection entity relations scopes
  | append_singleton calls call ih =>
      rw [Source.attemptAll_concat]
      apply ih.attempt
      rw [ScopesKeep, attemptAll_scopes]
      exact scopesKeep

/-! ## Agreement -/

/-- The selection has the page that the query reports.  An absent offset is as good as zero, and an
absent limit as good as the largest signed word if there is an offset. -/
structure PageAgrees (query : Query) : Prop where
  offset : query.select.offset.getD 0 = query.offset.getD 0
  limit_of_some : ∀ rows, query.limit = some rows → query.select.limit = some rows
  limit_of_none : query.limit = none → query.offset.getD 0 = 0 → query.select.limit = none
  limit_of_none_of_ne_zero : query.limit = none → query.offset.getD 0 ≠ 0 →
    query.select.limit = none ∨ query.select.limit = some 0x7fffffffffffffff

theorem getLast?_filter_pos {rows : Nat} {offsets : List Nat}
    (last_eq : offsets.getLast? = some rows) (positive : 0 < rows) :
    (offsets.filter (0 < ·)).getLast? = some rows := by
  obtain ⟨before, rfl⟩ := List.getLast?_eq_some_iff.mp last_eq
  rw [List.filter_append, List.filter_cons_of_pos (by simpa using positive), List.filter_nil,
    List.getLast?_concat]

/-- The offset of the selection is absent unless a positive one was set. -/
theorem Follows.selectOffset_eq_none {calls : List Call} {query : Query}
    (follows : Follows calls query) (allZero : ∀ rows ∈ Call.offsets calls, rows = 0) :
    query.select.offset = none := by
  rw [follows.selectOffset, List.getLast?_eq_none_iff, List.filter_eq_nil_iff]
  intro rows rows_mem
  simp [allZero rows rows_mem]

/-- A stale offset is one that the selection has and the query does not report. -/
theorem Follows.offset_ne_of_stale {calls : List Call} {query : Query}
    (follows : Follows calls query) (stale : Call.StaleOffset calls) :
    query.select.offset.getD 0 ≠ query.offset.getD 0 := by
  obtain ⟨last_eq, rows, rows_mem, positive⟩ := stale
  have mem : rows ∈ (Call.offsets calls).filter (0 < ·) :=
    List.mem_filter.mpr ⟨rows_mem, by simpa using positive⟩
  cases select_eq : ((Call.offsets calls).filter (0 < ·)).getLast? with
  | none =>
      rw [List.getLast?_eq_none_iff.mp select_eq] at mem
      exact absurd mem List.not_mem_nil
  | some kept =>
      have kept_lt : 0 < kept := by
        simpa using (List.mem_filter.mp (List.mem_of_getLast? select_eq)).2
      rw [follows.selectOffset, select_eq, follows.offset, last_eq]
      exact Nat.pos_iff_ne_zero.mp kept_lt

theorem Follows.pageAgrees {calls : List Call} {query : Query} (follows : Follows calls query)
    (stale : ¬Call.StaleOffset calls) : PageAgrees query := by
  cases last_eq : (Call.offsets calls).getLast? with
  | some rows =>
      rcases Nat.eq_zero_or_pos rows with rfl | positive
      · have allZero : ∀ rows ∈ Call.offsets calls, rows = 0 := by
          intro rows rows_mem
          by_contra ne
          exact stale ⟨last_eq, rows, rows_mem, Nat.pos_of_ne_zero ne⟩
        have eq_none := follows.selectOffset_eq_none allZero
        have reported : query.offset = some 0 := follows.offset.trans last_eq
        refine ⟨by simp [eq_none, reported], follows.selectLimit_of_some, ?_, ?_⟩
        · intro limit_eq _
          simp [follows.selectLimit_of_none limit_eq, eq_none]
        · intro _ ne
          simp [reported] at ne
      · have select_eq := follows.selectOffset.trans (getLast?_filter_pos last_eq positive)
        have reported : query.offset = some rows := follows.offset.trans last_eq
        refine ⟨by rw [select_eq, reported], follows.selectLimit_of_some, ?_, ?_⟩
        · intro _ zero_eq
          rw [reported, Option.getD_some] at zero_eq
          exact absurd zero_eq (Nat.pos_iff_ne_zero.mp positive)
        · intro limit_eq _
          right
          rw [follows.selectLimit_of_none limit_eq, select_eq]
          rfl
  | none =>
      have empty : Call.offsets calls = [] := List.getLast?_eq_none_iff.mp last_eq
      have eq_none := follows.selectOffset_eq_none (by simp [empty])
      have reported : query.offset = none := follows.offset.trans last_eq
      refine ⟨by rw [eq_none, reported], follows.selectLimit_of_some, ?_, ?_⟩
      · intro limit_eq _
        simp [follows.selectLimit_of_none limit_eq, eq_none]
      · intro _ ne
        simp [reported] at ne

/-- After any calls on a query without calls, the reported limit and offset are those that were last
set since the last removal, and every page that is made of the query names them.  The selection has
the same page exactly if no offset of zero was set last after a positive one. -/
theorem pageAgrees_iff (connection : Connection) (entity : Entity)
    (relations : List (String × Relation)) (scopes : List (String × Scope))
    (scopesKeep : (fresh connection entity relations scopes).ScopesKeep) (calls : List Call) :
    let query := Source.attemptAll (fresh connection entity relations scopes) calls
    (query.limit = (Call.limits calls).getLast? ∧ query.offset = (Call.offsets calls).getLast?) ∧
      (∀ (α : Type) (transform : List Json → α) (page : Page α),
        (Page.compileWith query transform).outcome = .ok page →
          page.extent.limit = query.limit ∧ page.extent.offset = query.offset.getD 0) ∧
      (query.PageAgrees ↔ ¬Call.StaleOffset calls) := by
  intro query
  have follows : Follows calls query := follows_attemptAll scopesKeep calls
  refine ⟨⟨follows.limit, follows.offset⟩, ?_, ?_⟩
  · intro α transform page page_eq
    obtain ⟨total, rows, _, _, rfl⟩ := Page.compileWith_outcome_eq_ok_iff.mp page_eq
    exact ⟨rfl, rfl⟩
  · constructor
    · intro agrees stale
      exact follows.offset_ne_of_stale stale agrees.offset
    · exact follows.pageAgrees

/-- Books with a scope that adds a condition.  The offset before the removal does not count, and the
last one after it is positive. -/
theorem pageAgrees_iff_books :
    let scopes : List (String × Scope) := [("published", Catalogue.Books.publishedScope)]
    let connection : Connection := ⟨.sqlite, .ok none, .ok []⟩
    let calls : List Call :=
      [.offset 7, .applyScope "published" [], .applyScope "unknown" [], .stripPagination,
        .offset 0, .limit 3, .offset 5]
    (fresh connection Catalogue.Books.entity [] scopes).ScopesKeep ∧
      (Source.attemptAll (fresh connection Catalogue.Books.entity [] scopes) calls).PageAgrees := by
  intro scopes connection calls
  have scopesKeep : (fresh connection Catalogue.Books.entity [] scopes).ScopesKeep := by
    intro entry entry_mem arguments edit edit_mem
    obtain rfl := List.mem_singleton.mp entry_mem
    obtain rfl := List.mem_singleton.mp edit_mem
    rfl
  refine ⟨scopesKeep, ?_⟩
  apply (pageAgrees_iff connection Catalogue.Books.entity [] scopes scopesKeep calls).2.2.mpr
  rintro ⟨last_eq, _⟩
  revert last_eq
  decide

/-- An offset of five that an offset of zero follows stays in the selection, while zero is
reported. -/
theorem not_pageAgrees_offset_five_zero :
    let connection : Connection := ⟨.sqlite, .ok none, .ok []⟩
    let query := Source.attemptAll (fresh connection Catalogue.Books.entity [] [])
      [.offset 5, .offset 0]
    query.select.offset = some 5 ∧ query.offset = some 0 ∧ ¬query.PageAgrees := by
  refine ⟨rfl, rfl, fun agrees => ?_⟩
  have offset_eq : (5 : Nat) = 0 := agrees.offset
  simp at offset_eq

end Query

end Listing.Sql
