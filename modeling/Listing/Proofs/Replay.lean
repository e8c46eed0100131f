import Listing.Proofs.Memory.CallLog
import Listing.Proofs.Narrowing
import Listing.Proofs.Sql.PageAgreement

/-!
# Replaying a record

A query on stored rows and a query on a table are told the same things.  What they report of
themselves changes in the same way with every call (`Report.after`), they refuse the same scopes if
they know the same ones, and the record of the first is all that one needs to build the second: its
calls, made on a new query on the table, lead to the same query (`Query.replay_attemptAll`).  The
record has lost the limits, offsets and orderings that were removed, so that a removal undoes
exactly these.
-/

namespace Listing

/-! ## Reports -/

/-- What a query reports of itself. -/
structure Report where
  limit : Option Nat
  offset : Option Nat
  eagerLoading : Bool

namespace Report

/-- The report after a call. -/
def after (report : Report) : Call → Report
  | .limit rows => { report with limit := some rows }
  | .offset rows => { report with offset := some rows }
  | .withoutEagerLoading => { report with eagerLoading := false }
  | .stripPagination => { report with limit := none, offset := none }
  | _ => report

end Report

/-- Whether a call sets what a removal takes back: a limit, an offset or an ordering. -/
def Call.isRemovable (call : Call) : Bool :=
  call.isPage || call.isOrdering

/-- Why a query refuses a call, if it does. -/
def Source.refusal? {Q Row : Type} [Source Q Row] (query : Q) (call : Call) : Option Failure :=
  match perform query call with
  | .ok _ => none
  | .error reason => some reason

/-- The only calls of scopes that are refused are those of scopes that the query does not have. -/
theorem Source.refusal?_applyScope {Q Row : Type} [Source Q Row] [LawfulSource Q Row] (query : Q)
    (name : String) (arguments : List Json) :
    refusal? query (.applyScope name arguments) =
      if LawfulSource.hasScope query name then none else some (.unknownScope name) := by
  rw [refusal?, LawfulSource.perform_applyScope]
  cases LawfulSource.hasScope query name <;> rfl

namespace Memory.Query

/-- A query on which no call was made. -/
def fresh (rows : List Row) (scopes : List (String × String)) : Query :=
  { ofRows rows with scopes := scopes }

/-- What the query reports of itself. -/
def report (query : Query) : Report :=
  ⟨query.limit, query.offset, query.eagerLoading⟩

theorem report_attempt (query : Query) (call : Call) :
    (Source.attempt query call).report = query.report.after call := by
  cases call with
  | applyScope name arguments =>
      by_cases known : (query.scopes.lookup name).isSome <;>
        simp [Source.attempt, Source.perform, perform, record, report, Report.after, known]
  | _ => rfl

theorem hasScope_iff (query : Query) (name : String) :
    LawfulSource.hasScope query name ↔ name ∈ query.scopes.map Prod.fst := by
  refine List.lookup_isSome_iff.trans (Iff.trans ?_ List.mem_map.symm)
  exact exists_congr fun entry => and_congr_right fun _ => beq_iff_eq.trans eq_comm

theorem isStrip_of_mem_attempt_log {query : Query}
    (log_keeps : ∀ call ∈ query.log, call.isStrip = false)
    {call : Call} :
    ∀ recorded ∈ (Source.attempt query call).log, recorded.isStrip = false := by
  intro recorded recorded_mem
  cases strip_eq : call.isStrip with
  | true =>
      cases call with
      | stripPagination => exact log_keeps recorded (List.mem_of_mem_filter recorded_mem)
      | _ => cases strip_eq
  | false =>
      rw [attempt_log query strip_eq] at recorded_mem
      rcases List.mem_append.mp recorded_mem with recorded_mem | recorded_mem
      · exact log_keeps recorded recorded_mem
      · obtain rfl := List.mem_singleton.mp (List.mem_of_mem_filter recorded_mem)
        exact strip_eq

end Memory.Query

namespace Sql.Query

/-- What the query reports of itself. -/
def report (query : Query) : Report :=
  ⟨query.limit, query.offset, query.eagerLoading⟩

theorem report_attempt (query : Query) (call : Call) :
    (Source.attempt query call).report = query.report.after call := by
  cases call with
  | like field pattern operator => cases operator <;> rfl
  | hasIn relation field items | hasEq relation field item =>
      simp only [Source.attempt, Source.perform, perform, keepRelated]
      split <;> rfl
  | applyScope name arguments =>
      simp only [Source.attempt, Source.perform, perform]
      cases Bindings.last? name query.scopes <;> rfl
  | _ => rfl

theorem hasScope_iff (query : Query) (name : String) :
    LawfulSource.hasScope query name ↔ name ∈ query.scopes.map Prod.fst :=
  Bindings.last?_isSome_iff.trans (by simp)

/-! ## Removals -/

theorem editAll_unpaged {edits : List Edit} (allKeep : ∀ edit ∈ edits, edit.isKeep)
    (select : Select) :
    (select.editAll edits).unpaged = select.unpaged.editAll edits := by
  induction edits generalizing select with
  | nil => rfl
  | cons edit edits ih =>
      have rest_eq :=
        ih (fun other other_mem => allKeep other (List.mem_cons_of_mem edit other_mem))
        (select.edit edit)
      cases edit with
      | keep condition => exact rest_eq
      | _ => simpa [Edit.isKeep] using allKeep _ List.mem_cons_self

/-- A removal forgets a limit, an offset and an ordering that were just set. -/
theorem strip_attempt_of_isRemovable {call : Call} (removable : call.isRemovable) (query : Query) :
    (Source.attempt query call).strip = query.strip := by
  cases call with
  | limit rows | orderBy field direction => rfl
  | offset rows =>
      simp only [Source.attempt, Source.perform, perform, setOffset]
      split
      · rfl
      · split <;> rfl
  | _ => cases removable

theorem strip_attempt {call : Call} (keeps : call.isRemovable = false) {query : Query}
    (scopesKeep : query.ScopesKeep) :
    (Source.attempt query call).strip = Source.attempt query.strip call := by
  cases call with
  | like field pattern operator => cases operator <;> rfl
  | hasIn relation field items | hasEq relation field item =>
      simp only [Source.attempt, Source.perform, perform, keepRelated, strip]
      split <;> rfl
  | applyScope name arguments =>
      simp only [Source.attempt, Source.perform, perform, strip]
      cases scope_eq : Bindings.last? name query.scopes with
      | none => rfl
      | some scope =>
          have allKeep :=
            scopesKeep (name, scope) (Bindings.last?_eq_some_iff.mp scope_eq).mem arguments
          exact congrArg
            (fun select => { query with select := select, limit := none, offset := none })
            (editAll_unpaged allKeep query.select)
  | limit | offset | orderBy => cases keeps
  | _ => rfl

/-- A removal after any calls leaves the query as if the limits, offsets and orderings had never
been set after an earlier removal. -/
theorem strip_attemptAll {query : Query} (scopesKeep : query.ScopesKeep) (calls : List Call) :
    (Source.attemptAll query calls).strip =
      Source.attemptAll query.strip (calls.filter (!·.isRemovable)) := by
  induction calls using List.reverseRecOn with
  | nil => rfl
  | append_singleton calls call ih =>
      have beforeScopesKeep : (Source.attemptAll query calls).ScopesKeep := by
        rw [ScopesKeep, attemptAll_scopes]
        exact scopesKeep
      rw [Source.attemptAll_concat, List.filter_append, Source.attemptAll_append, ← ih]
      cases removable : call.isRemovable with
      | true =>
          rw [strip_attempt_of_isRemovable removable,
            List.filter_cons_of_neg (by simp [removable])]
          rfl
      | false =>
          rw [strip_attempt removable beforeScopesKeep,
            List.filter_cons_of_pos (by simp [removable])]
          rfl

theorem strip_fresh (connection : Connection) (entity : Entity)
    (relations : List (String × Relation)) (scopes : List (String × Scope)) :
    (fresh connection entity relations scopes).strip = fresh connection entity relations scopes :=
  rfl

/-! ## Both queries in step -/

/-- A query on stored rows and a query on a table that were told the same things since the latter
was `blank`. -/
structure InStep (blank : Query) (stored : Memory.Query) (table : Query) : Prop where
  scopes : LawfulSource.hasScope stored = LawfulSource.hasScope table
  report : stored.report = table.report
  plain : ∀ call ∈ stored.log, call.isStrip = false
  replay : table = Source.attemptAll blank stored.log

section

variable {blank table : Query} {stored : Memory.Query}

theorem InStep.refusal?_eq (inStep : InStep blank stored table) (name : String)
    (arguments : List Json) :
    Source.refusal? stored (.applyScope name arguments) =
      Source.refusal? table (.applyScope name arguments) := by
  rw [Source.refusal?_applyScope, Source.refusal?_applyScope, inStep.scopes]

/-- A call that removes nothing leads to the query that the longer record leads to. -/
theorem InStep.replay_attempt (inStep : InStep blank stored table) {call : Call}
    (keeps : call.isStrip = false) :
    Source.attempt table call = Source.attemptAll blank (Source.attempt stored call).log := by
  rw [Memory.Query.attempt_log stored keeps, Source.attemptAll_append, ← inStep.replay]
  cases known : stored.knows call with
  | true => rw [Memory.Query.recorded, List.filter_cons_of_pos known]; rfl
  | false =>
      rw [Memory.Query.recorded, List.filter_cons_of_neg (by simp [known])]
      cases call with
      | applyScope name arguments =>
          have unknown : LawfulSource.hasScope table name = false :=
            (congrFun inStep.scopes name).symm.trans known
          have perform_eq := LawfulSource.perform_applyScope table name arguments
          rw [unknown, if_neg Bool.false_ne_true] at perform_eq
          rw [Source.attempt, perform_eq]
          rfl
      | _ => cases known

/-- A removal leads to the query that the record leads to without what it takes back. -/
theorem InStep.replay_strip (inStep : InStep blank stored table) (blank_eq : blank.strip = blank)
    (scopesKeep : blank.ScopesKeep) :
    table.strip =
      Source.attemptAll blank (Source.attempt stored .stripPagination).log := by
  have plain : ∀ call ∈ stored.log, (!call.isPagination) = !call.isRemovable := by
    intro call call_mem
    have keeps := inStep.plain call call_mem
    cases call with
    | stripPagination => cases keeps
    | _ => rfl
  calc table.strip
    _ = (Source.attemptAll blank stored.log).strip := congrArg strip inStep.replay
    _ = Source.attemptAll blank (stored.log.filter (!·.isRemovable)) := by
        rw [strip_attemptAll scopesKeep, blank_eq]
    _ = Source.attemptAll blank (Source.attempt stored .stripPagination).log := by
        rw [← List.filter_congr plain]
        rfl

theorem InStep.attempt (inStep : InStep blank stored table) (blank_eq : blank.strip = blank)
    (scopesKeep : blank.ScopesKeep) (call : Call) :
    InStep blank (Source.attempt stored call) (Source.attempt table call) where
  scopes := by
    rw [LawfulSource.hasScope_attempt, LawfulSource.hasScope_attempt, inStep.scopes]
  report := by
    rw [Memory.Query.report_attempt, report_attempt, inStep.report]
  plain := Memory.Query.isStrip_of_mem_attempt_log inStep.plain
  replay := by
    cases strip_eq : call.isStrip with
    | false => exact inStep.replay_attempt strip_eq
    | true =>
        cases call with
        | stripPagination => exact inStep.replay_strip blank_eq scopesKeep
        | _ => cases strip_eq

theorem InStep.attemptAll (inStep : InStep blank stored table) (blank_eq : blank.strip = blank)
    (scopesKeep : blank.ScopesKeep) (calls : List Call) :
    InStep blank (Source.attemptAll stored calls) (Source.attemptAll table calls) := by
  induction calls generalizing stored table with
  | nil => exact inStep
  | cons call calls ih => exact ih (inStep.attempt blank_eq scopesKeep call)

end

theorem inStep_fresh {columns : List (String × String)} {scopes : List (String × Scope)}
    (allNames : ∀ name, name ∈ columns.map Prod.fst ↔ name ∈ scopes.map Prod.fst)
    (rows : List Memory.Row) (connection : Connection) (entity : Entity)
    (relations : List (String × Relation)) :
    InStep (fresh connection entity relations scopes) (Memory.Query.fresh rows columns)
      (fresh connection entity relations scopes) where
  scopes := by
    funext name
    have stored := Memory.Query.hasScope_iff (Memory.Query.fresh rows columns) name
    have table_iff := hasScope_iff (fresh connection entity relations scopes) name
    exact Bool.eq_iff_iff.mpr (stored.trans ((allNames name).trans table_iff.symm))
  report := rfl
  plain := by simp [Memory.Query.fresh, Memory.Query.ofRows]
  replay := rfl

/-- Any calls are made on a query on stored rows and on one on a table, both without calls before
and knowing the same scopes, which only add conditions.  Then both answer the call of any scope
alike: they refuse it exactly if its name is unknown.  They report the same limit, offset and mark
for lean responses, and the record of the first one, made on a new query on the table, leads to the
second one.  A removal has the effect of never having set a limit, an offset or an ordering;
conditions and mark stay. -/
theorem replay_attemptAll (rows : List Memory.Row) (columns : List (String × String))
    (connection : Connection) (entity : Entity) (relations : List (String × Relation))
    (scopes : List (String × Scope))
    (allNames : ∀ name, name ∈ columns.map Prod.fst ↔ name ∈ scopes.map Prod.fst)
    (scopesKeep : (fresh connection entity relations scopes).ScopesKeep) (calls : List Call) :
    let blank := fresh connection entity relations scopes
    let stored := Source.attemptAll (Memory.Query.fresh rows columns) calls
    let table := Source.attemptAll blank calls
    let stripped := Source.attemptAll blank (calls ++ [.stripPagination])
    (∀ name arguments,
      Source.refusal? stored (.applyScope name arguments) =
          Source.refusal? table (.applyScope name arguments) ∧
        Source.refusal? table (.applyScope name arguments) =
          if name ∈ scopes.map Prod.fst then none else some (.unknownScope name)) ∧
      Source.pagination stored = Source.pagination table ∧
      stored.eagerLoading = table.eagerLoading ∧
      table = Source.attemptAll blank stored.log ∧
      stripped = Source.attemptAll blank (calls.filter (!·.isRemovable)) ∧
      stripped.select.conditions = table.select.conditions ∧
      stripped.eagerLoading = table.eagerLoading := by
  intro blank stored table stripped
  have blank_eq : blank.strip = blank := strip_fresh connection entity relations scopes
  have inStep : InStep blank stored table :=
    (inStep_fresh allNames rows connection entity relations).attemptAll blank_eq scopesKeep calls
  have stripped_eq : stripped = table.strip := Source.attemptAll_concat ..
  have report_eq := inStep.report
  simp only [Memory.Query.report, report, Report.mk.injEq] at report_eq
  refine ⟨fun name arguments => ⟨inStep.refusal?_eq name arguments, ?_⟩,
    Prod.ext report_eq.1 report_eq.2.1, report_eq.2.2, inStep.replay, ?_, ?_, ?_⟩
  · have known : LawfulSource.hasScope table name ↔ name ∈ scopes.map Prod.fst := by
      rw [Engine.hasScope_attemptAll]
      exact hasScope_iff blank name
    rw [Source.refusal?_applyScope]
    simp only [known]
  · rw [stripped_eq, strip_attemptAll scopesKeep, blank_eq]
  · rw [stripped_eq]
    rfl
  · rw [stripped_eq]
    rfl

/-- Books with one scope.  The first limit, offset and ordering are removed again, an unknown scope
is refused, and later calls are recorded. -/
theorem replay_attemptAll_books :
    let blank := fresh ⟨.sqlite, .ok none, .ok []⟩ Catalogue.Books.entity []
      [("published", Catalogue.Books.publishedScope)]
    let stored := Memory.Query.fresh Catalogue.Books.stored [("published", "published")]
    let calls : List Call :=
      [.orderBy "price" .descending, .offset 7, .applyScope "published" [],
        .applyScope "unknown" [],
        .stripPagination, .withoutEagerLoading, .isIn "status" ["draft"], .offset 0, .limit 3]
    blank.ScopesKeep ∧
      Source.attemptAll blank calls =
        Source.attemptAll blank
          [.applyScope "published" [], .withoutEagerLoading, .isIn "status" ["draft"], .offset 0,
            .limit 3] ∧
      Source.pagination (Source.attemptAll stored calls) = (some 3, some 0) ∧
      Source.refusal? (Source.attemptAll stored calls) (.applyScope "unknown" []) =
        some (.unknownScope "unknown") := by
  intro blank stored calls
  have scopesKeep : blank.ScopesKeep := by
    intro entry entry_mem arguments edit edit_mem
    obtain rfl := List.mem_singleton.mp entry_mem
    obtain rfl := List.mem_singleton.mp edit_mem
    rfl
  obtain ⟨allRefusal, pagination_eq, _, replay_eq, _⟩ :=
    replay_attemptAll Catalogue.Books.stored [("published", "published")]
      ⟨.sqlite, .ok none, .ok []⟩ Catalogue.Books.entity []
      [("published", Catalogue.Books.publishedScope)] (by simp) scopesKeep calls
  exact ⟨scopesKeep, replay_eq, pagination_eq.trans rfl,
    (allRefusal "unknown" []).1.trans ((allRefusal "unknown" []).2.trans (by simp))⟩

end Sql.Query

end Listing
