import Listing.Proofs.Memory.CallLog
import Listing.Proofs.Narrowing

/-!
# Matching rows held in memory

A stored row matches a query if it meets all recorded calls.  Only calls that narrow the listing can
fail to be met, and these stay in the record whatever is called after them.  So the rows that match
after any calls are those that meet all of them, as far as the query knows them
(`Query.matching_attemptAll`).
-/

namespace Listing.Memory

theorem Row.meets_of_idle {call : Call} (idle : call.narrows = false)
    (scopes : List (String × String)) (row : Row) : row.meets scopes call = true := by
  cases call with
  | orderBy | withoutEagerLoading | limit | offset | stripPagination => rfl
  | _ => cases idle

namespace Row

variable (row : Row) (scopes : List (String × String))

/-- A row meets calls exactly if it meets those that narrow the listing. -/
theorem all_meets_filter_narrows (calls : List Call) :
    (calls.filter Call.narrows).all (row.meets scopes) = calls.all (row.meets scopes) := by
  rw [List.all_filter]
  apply List.all_congr rfl
  intro call
  cases narrows : call.narrows with
  | false => simp [row.meets_of_idle narrows scopes]
  | true => rfl

theorem all_meets_congr {calls others : List Call}
    (calls_eq : calls.filter Call.narrows = others.filter Call.narrows) :
    calls.all (row.meets scopes) = others.all (row.meets scopes) := by
  rw [← row.all_meets_filter_narrows, calls_eq, row.all_meets_filter_narrows]

end Row

namespace Query

@[simp]
theorem attempt_rows (query : Query) (call : Call) :
    (Source.attempt query call).rows = query.rows := by
  cases call with
  | applyScope name arguments =>
      by_cases known : (query.scopes.lookup name).isSome <;>
        simp [Source.attempt, Source.perform, perform, record, known]
  | _ => rfl

@[simp]
theorem attemptAll_rows (query : Query) (calls : List Call) :
    (Source.attemptAll query calls).rows = query.rows := by
  induction calls using List.reverseRecOn with
  | nil => rfl
  | append_singleton calls call ih =>
      rw [Source.attemptAll_concat, ← ih]
      exact attempt_rows ..

/-- A call leaves the narrowing calls in the record, and comes after them if it is one. -/
theorem filter_narrows_attempt_log (query : Query) (call : Call) :
    (Source.attempt query call).log.filter Call.narrows =
      (query.log ++ query.recorded [call]).filter Call.narrows := by
  cases strip_eq : call.isStrip with
  | false => rw [attempt_log query strip_eq]
  | true =>
      cases call with
      | stripPagination =>
          have allKeeps : ∀ call ∈ query.log,
              (call.narrows && !call.isPagination) = call.narrows := by
            intro call _
            cases pagination_eq : call.isPagination with
            | false => simp
            | true => simp [Call.narrows_of_isPagination pagination_eq]
          calc (query.log.filter (!·.isPagination)).filter Call.narrows
            _ = query.log.filter Call.narrows := by
                rw [List.filter_filter, List.filter_congr allKeeps]
            _ = (query.log ++ query.recorded [.stripPagination]).filter Call.narrows := by
                rw [List.filter_append]
                exact (List.append_nil _).symm
      | _ => cases strip_eq

/-- The narrowing calls in the record after any calls are those before and those among the calls. -/
theorem filter_narrows_attemptAll_log (query : Query) (calls : List Call) :
    (Source.attemptAll query calls).log.filter Call.narrows =
      (query.log ++ query.recorded calls).filter Call.narrows := by
  induction calls using List.reverseRecOn with
  | nil => simp [recorded]
  | append_singleton calls call ih =>
      calc (Source.attemptAll query (calls ++ [call])).log.filter Call.narrows
        _ = (Source.attempt (Source.attemptAll query calls) call).log.filter Call.narrows := by
            rw [Source.attemptAll_concat]
        _ = ((query.log ++ query.recorded calls) ++ query.recorded [call]).filter
              Call.narrows := by
            rw [filter_narrows_attempt_log, recorded_attemptAll, List.filter_append, ih,
              ← List.filter_append]
        _ = (query.log ++ query.recorded (calls ++ [call])).filter Call.narrows := by
            rw [List.append_assoc, ← recorded_append]

/-- After any calls the rows match that met the conditions before and meet the calls. -/
theorem matching_attemptAll (query : Query) (calls : List Call) :
    (Source.attemptAll query calls).matching =
      query.rows.filter fun row =>
        (query.log ++ query.recorded calls).all (row.meets query.scopes) := by
  rw [matching, attemptAll_rows, attemptAll_scopes]
  apply List.filter_congr
  intro row _
  exact row.all_meets_congr query.scopes (filter_narrows_attemptAll_log query calls)

theorem matching_attemptAll_insert (query : Query) {calls : List Call}
    (known : ∀ call ∈ calls, query.knows call) (earlier later : List Call) :
    (Source.attemptAll query (earlier ++ calls ++ later)).matching =
      (Source.attemptAll query (earlier ++ later)).matching.filter fun row =>
        calls.all (row.meets query.scopes) := by
  rw [matching_attemptAll, matching_attemptAll, List.filter_filter]
  apply List.filter_congr
  intro row _
  simp only [recorded_append, recorded_of_known known, List.all_append]
  ac_rfl

theorem filter_narrows_recorded (query : Query) (calls : List Call) :
    (query.recorded calls).filter Call.narrows = query.recorded (calls.filter Call.narrows) := by
  simp only [recorded, List.filter_filter, Bool.and_comm]

/-- Two runs with the same narrowing calls leave the same rows matching. -/
theorem matching_attemptAll_congr (query : Query) {calls others : List Call}
    (calls_eq : calls.filter Call.narrows = others.filter Call.narrows) :
    (Source.attemptAll query calls).matching = (Source.attemptAll query others).matching := by
  rw [matching_attemptAll, matching_attemptAll]
  apply List.filter_congr
  intro row _
  apply row.all_meets_congr
  rw [List.filter_append, List.filter_append, filter_narrows_recorded, calls_eq,
    ← filter_narrows_recorded]

end Query

end Listing.Memory
