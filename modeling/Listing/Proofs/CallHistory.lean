import Listing.Source
import Mathlib.Data.List.DropRight

/-!
# Histories of calls

What a query reports as its page depends on the calls that were made since limit, offset and
orderings were last removed.  `Call.limits` and `Call.offsets` are the numbers that were set since
then; each further call adds at most one number to them, and a removal forgets them all.
-/

namespace Listing.Call

/-- Whether a call removes limit, offset and orderings. -/
def isStrip : Call → Bool
  | stripPagination => true
  | _ => false

/-- The limit that a call sets. -/
def limit? : Call → Option Nat
  | limit rows => some rows
  | _ => none

/-- The offset that a call sets. -/
def offset? : Call → Option Nat
  | offset rows => some rows
  | _ => none

/-- Whether a call sets a limit or an offset. -/
def isPage : Call → Bool
  | limit _ | offset _ => true
  | _ => false

/-- The calls after the last one that removes limit, offset and orderings. -/
def sinceStrip (calls : List Call) : List Call :=
  calls.rtakeWhile fun call => !call.isStrip

/-- The limits that were set since the last removal. -/
def limits (calls : List Call) : List Nat :=
  (sinceStrip calls).filterMap limit?

/-- The offsets that were set since the last removal. -/
def offsets (calls : List Call) : List Nat :=
  (sinceStrip calls).filterMap offset?

theorem sinceStrip_concat {call : Call} (keeps : call.isStrip = false) (calls : List Call) :
    sinceStrip (calls ++ [call]) = sinceStrip calls ++ [call] :=
  List.rtakeWhile_concat_pos _ _ _ (by simp [keeps])

@[simp]
theorem sinceStrip_concat_stripPagination (calls : List Call) :
    sinceStrip (calls ++ [stripPagination]) = [] :=
  List.rtakeWhile_concat_neg _ _ _ (by simp [isStrip])

/-- What is read off the calls since the last removal gets longer by what is read off a call that
removes nothing. -/
theorem filterMap_sinceStrip_concat {call : Call} (keeps : call.isStrip = false)
    (read? : Call → Option Nat) (calls : List Call) :
    (sinceStrip (calls ++ [call])).filterMap read? =
      (sinceStrip calls).filterMap read? ++ (read? call).toList := by
  rw [sinceStrip_concat keeps, List.filterMap_append]
  cases read_eq : read? call <;> simp [read_eq]

/-- A call that removes nothing adds the limit that it sets, if it sets one. -/
theorem limits_concat {call : Call} (keeps : call.isStrip = false) (calls : List Call) :
    limits (calls ++ [call]) = limits calls ++ call.limit?.toList :=
  filterMap_sinceStrip_concat keeps limit? calls

/-- A call that removes nothing adds the offset that it sets, if it sets one. -/
theorem offsets_concat {call : Call} (keeps : call.isStrip = false) (calls : List Call) :
    offsets (calls ++ [call]) = offsets calls ++ call.offset?.toList :=
  filterMap_sinceStrip_concat keeps offset? calls

@[simp]
theorem limits_concat_stripPagination (calls : List Call) :
    limits (calls ++ [stripPagination]) = [] := by
  simp [limits]

@[simp]
theorem offsets_concat_stripPagination (calls : List Call) :
    offsets (calls ++ [stripPagination]) = [] := by
  simp [offsets]

@[simp]
theorem limits_concat_limit (calls : List Call) (rows : Nat) :
    limits (calls ++ [limit rows]) = limits calls ++ [rows] :=
  limits_concat rfl calls

@[simp]
theorem limits_concat_offset (calls : List Call) (rows : Nat) :
    limits (calls ++ [offset rows]) = limits calls :=
  (limits_concat rfl calls).trans (List.append_nil _)

@[simp]
theorem offsets_concat_limit (calls : List Call) (rows : Nat) :
    offsets (calls ++ [limit rows]) = offsets calls :=
  (offsets_concat rfl calls).trans (List.append_nil _)

@[simp]
theorem offsets_concat_offset (calls : List Call) (rows : Nat) :
    offsets (calls ++ [offset rows]) = offsets calls ++ [rows] :=
  offsets_concat rfl calls

/-- Since the last removal an offset of zero was set last, and a positive one before it. -/
def StaleOffset (calls : List Call) : Prop :=
  (offsets calls).getLast? = some 0 ∧ ∃ rows ∈ offsets calls, 0 < rows

end Listing.Call
