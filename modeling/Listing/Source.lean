import Listing.Call
import Listing.Failure
import Listing.Sql.Statement

/-!
# Data sources

A data source has queries that are built call by call and then run.  A run executes statements and
ends with a result, with a failure, or without an answer because a statement has no text in the
dialect of the store.
-/

namespace Listing

/-- Why a run ends without a result. -/
inductive Interruption where
  | failed (reason : Failure)
  /-- A statement cannot be expressed in the dialect of the store. -/
  | inexpressible

/-- What a run does and how it ends. -/
structure Run (α : Type) where
  /-- The executed statements, in order. -/
  statements : List Sql.Statement
  outcome : Except Interruption α

namespace Run

/-- Ends with a result and executes nothing. -/
def done {α : Type} (result : α) : Run α :=
  ⟨[], .ok result⟩

/-- Ends without a result and executes nothing. -/
def stopped {α : Type} (interruption : Interruption) : Run α :=
  ⟨[], .error interruption⟩

/-- Goes on with the result of a run, if it has one. -/
def andThen {α β : Type} (run : Run α) (next : α → Run β) : Run β :=
  match run.outcome with
  | .ok result => ⟨run.statements ++ (next result).statements, (next result).outcome⟩
  | .error interruption => ⟨run.statements, .error interruption⟩

instance : Monad Run where
  pure := done
  bind := andThen

theorem bind_outcome_eq_ok_iff {α β : Type} {run : Run α} {next : α → Run β} {result : β} :
    (run >>= next).outcome = .ok result ↔
      ∃ middle, run.outcome = .ok middle ∧ (next middle).outcome = .ok result := by
  rcases run with ⟨statements, outcome⟩
  cases outcome <;> simp [bind, andThen]

@[simp]
theorem pure_outcome {α : Type} (result : α) : (pure result : Run α).outcome = .ok result :=
  rfl

/-- A result or a failure, without executing anything. -/
def ofExcept {α : Type} : Except Failure α → Run α
  | .ok result => done result
  | .error reason => stopped (.failed reason)

/-- Executes a statement and reads the answer of the store. -/
def execute {α : Type} (statement : Sql.Statement) (answer : Except StoreError α) : Run α :=
  match answer with
  | .ok result => ⟨[statement], .ok result⟩
  | .error error => ⟨[statement], .error (.failed (.store error))⟩

end Run

/-- A kind of query `Q` that lists rows of kind `Row`. -/
class Source (Q : Type) (Row : outParam Type) where
  /-- Does one call.  The only call that can fail is that of a scope which the query does not
  have. -/
  perform : Q → Call → Except Failure Q
  /-- The limit and the offset that were last set. -/
  pagination : Q → Option Nat × Option Nat
  /-- Counts the matching rows. -/
  count : Q → Run Nat
  /-- Fetches the rows. -/
  fetch : Q → Run (List Row)

namespace Source

variable {Q Row : Type} [Source Q Row]

/-- Does a call of a hook or callback; if it fails it has no effect. -/
def attempt (query : Q) (call : Call) : Q :=
  match perform query call with
  | .ok next => next
  | .error _ => query

/-- Does the calls of hooks and callbacks, in order. -/
def attemptAll (query : Q) (calls : List Call) : Q :=
  calls.foldl attempt query

@[simp]
theorem attemptAll_nil (query : Q) : attemptAll query [] = query :=
  rfl

@[simp]
theorem attemptAll_append (query : Q) (calls others : List Call) :
    attemptAll query (calls ++ others) = attemptAll (attemptAll query calls) others := by
  simp [attemptAll]

theorem attemptAll_concat (query : Q) (calls : List Call) (call : Call) :
    attemptAll query (calls ++ [call]) = attempt (attemptAll query calls) call :=
  attemptAll_append query calls [call]

end Source

end Listing
