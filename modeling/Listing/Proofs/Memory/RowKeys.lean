import Listing.Memory.Query
import Listing.Proofs.Memory.Order
import Listing.Proofs.Memory.Sorted

/-!
# Rows that lie in a line

The comparison of rows is no order if a column mixes numbers, which are compared by their size, with
other values, which are compared by their texts.  As long as no column does that, each row has a key
in a line, and rows are compared by their keys (`Row.keyed_compareByAll`).  So they are sorted by
their orderings, and rows that are tied stay as they are (`Query.ordered_of_unmixed`).
-/

namespace Listing

/-- The value is a number other than the undefined one. -/
inductive Json.IsNumber : Json → Prop
  | integer (n : Int) : IsNumber (.number (.integer n))
  | float {x : Float} (defined : x.isNaN = false) : IsNumber (.number (.float x))

theorem Json.eq_undefined_of_not_isNumber {value : Json} {x : Float}
    (value_eq : value.asFloat? = some x) (notNumber : ¬value.IsNumber) :
    value = .number (.float x) ∧ x.isNaN = true := by
  cases value with
  | number number =>
      cases number with
      | integer n => exact absurd (.integer n) notNumber
      | float y =>
          cases value_eq
          refine ⟨rfl, ?_⟩
          by_contra defined
          exact notNumber (.float (Bool.eq_false_of_not_eq_true defined))
  | _ => cases value_eq

theorem Json.isNumber_iff {value : Json} :
    value.IsNumber ↔ ∃ x, value.asFloat? = some x ∧ x.isNaN = false := by
  constructor
  · rintro (n | defined)
    · exact ⟨_, rfl, Memory.isNaN_ofInt n⟩
    · exact ⟨_, rfl, defined⟩
  · rintro ⟨x, x_eq, defined⟩
    cases value with
    | number number =>
        cases number with
        | integer n => exact .integer n
        | float y =>
            cases x_eq
            exact .float defined
    | _ => cases x_eq

namespace Memory

namespace Row

variable {orderings : List (String × Direction)} {rows : List Row} {field : String}

/-! ## Keys -/

/-- Some of the rows have a number in a column and others a value that is neither a number nor
null. -/
def Mixed (rows : List Row) (field : String) : Prop :=
  (∃ row ∈ rows, ∃ value, row.lookup field = some value ∧ value.IsNumber) ∧
    ∃ row ∈ rows, ∃ value, row.lookup field = some value ∧ value ≠ .null ∧ ¬value.IsNumber

/-- The rows have keys in a line, and a comparison of the rows is that of their keys. -/
def Keyed (rows : List Row) (comparison : Row → Row → Ordering) : Prop :=
  ∃ (β : Type) (_ : LinearOrder β) (key : Row → β), ∀ row ∈ rows, ∀ other ∈ rows,
    (comparison row other).Compares (key row) (key other)

theorem Keyed.swap {comparison : Row → Row → Ordering} (keyed : Keyed rows comparison) :
    Keyed rows fun row other => (comparison row other).swap := by
  rcases keyed with ⟨β, order, key, allKey⟩
  refine ⟨βᵒᵈ, inferInstance, fun row => OrderDual.toDual (key row), ?_⟩
  intro row row_mem other other_mem
  exact toDual_compares_toDual.mpr (Ordering.compares_swap.mpr (allKey row row_mem other other_mem))

theorem compares_then {β γ : Type} [LinearOrder β] [LinearOrder γ] {first second : Ordering}
    {a b : β} {c d : γ} (firstCompares : first.Compares a b)
    (secondCompares : second.Compares c d) :
    (first.then second).Compares (toLex (a, c)) (toLex (b, d)) := by
  cases first with
  | lt =>
      have less : a < b := firstCompares
      exact Prod.Lex.toLex_lt_toLex.mpr (.inl less)
  | gt =>
      have less : b < a := firstCompares
      exact Prod.Lex.toLex_lt_toLex.mpr (.inl less)
  | eq =>
      obtain rfl : a = b := firstCompares
      cases second with
      | lt =>
          have less : c < d := secondCompares
          exact Prod.Lex.toLex_lt_toLex.mpr (.inr ⟨rfl, less⟩)
      | gt =>
          have less : d < c := secondCompares
          exact Prod.Lex.toLex_lt_toLex.mpr (.inr ⟨rfl, less⟩)
      | eq =>
          obtain rfl : c = d := secondCompares
          rfl

theorem Keyed.then {comparison next : Row → Row → Ordering} (keyed : Keyed rows comparison)
    (nextKeyed : Keyed rows next) :
    Keyed rows fun row other => (comparison row other).then (next row other) := by
  rcases keyed with ⟨β, order, key, allKey⟩
  rcases nextKeyed with ⟨γ, nextOrder, nextKey, allNextKey⟩
  refine ⟨β ×ₗ γ, inferInstance, fun row => toLex (key row, nextKey row), ?_⟩
  intro row row_mem other other_mem
  exact compares_then (allKey row row_mem other other_mem) (allNextKey row row_mem other other_mem)

theorem compareNumbers_compares {x y : Float} (x_defined : x.isNaN = false)
    (y_defined : y.isNaN = false) :
    (compareNumbers x y).Compares (rank x) (rank y) := by
  rw [compareNumbers]
  split_ifs with less greater
  · exact (float_lt_iff.mp less).2.2
  · exact (float_lt_iff.mp greater).2.2
  · refine le_antisymm (not_lt.mp fun lt => greater ?_) (not_lt.mp fun lt => less ?_)
    · exact float_lt_iff.mpr ⟨y_defined, x_defined, lt⟩
    · exact float_lt_iff.mpr ⟨x_defined, y_defined, lt⟩

theorem compares_coe {β : Type} [LinearOrder β] {comparison : Ordering} {a b : β}
    (compares : comparison.Compares a b) :
    comparison.Compares (a : WithBot β) (b : WithBot β) := by
  cases comparison with
  | lt | gt => exact WithBot.coe_lt_coe.mpr compares
  | eq => exact congrArg _ compares

/-- A field that is missing or null has neither a number nor a text, and any other field of a column
of numbers has both. -/
theorem asFloat?_cases {value : Option Json}
    (allNumber : ∀ json, value = some json → json ≠ .null → json.IsNumber) :
    value.bind Json.asFloat? = none ∧ text? value = none ∨
      ∃ x text, value.bind Json.asFloat? = some x ∧ x.isNaN = false ∧ text? value = some text := by
  rcases value with _ | json
  · exact .inl ⟨rfl, rfl⟩
  · by_cases null_eq : json = .null
    · exact .inl (null_eq ▸ ⟨rfl, rfl⟩)
    · right
      obtain ⟨x, x_eq, defined⟩ := Json.isNumber_iff.mp (allNumber json rfl null_eq)
      have text_ne : text? (some json) ≠ none := by simp [text?_eq_none_iff, null_eq]
      obtain ⟨text, text_eq⟩ := Option.ne_none_iff_exists'.mp text_ne
      exact ⟨x, text, x_eq, defined, text_eq⟩

/-- In a column of numbers the ranks of the numbers are keys, with one below them for fields that
are missing or null. -/
theorem keyed_of_numbers
    (allNumbers : ∀ row ∈ rows, ∀ value, row.lookup field = some value → value ≠ .null →
      value.IsNumber) :
    Keyed rows fun row other => compareValues (row.lookup field) (other.lookup field) := by
  refine ⟨WithBot (ℤ ×ₗ ℤ ×ₗ ℤ), inferInstance,
    fun row => ((row.lookup field).bind Json.asFloat?).map rank, ?_⟩
  intro row row_mem other other_mem
  beta_reduce
  rw [compareValues]
  rcases asFloat?_cases (allNumbers row row_mem) with
    ⟨x_eq, s_eq⟩ | ⟨x, s, x_eq, x_defined, s_eq⟩ <;>
    rcases asFloat?_cases (allNumbers other other_mem) with
      ⟨y_eq, t_eq⟩ | ⟨y, t, y_eq, y_defined, t_eq⟩ <;> rw [x_eq, y_eq]
  · rw [s_eq, t_eq]
    rfl
  · rw [s_eq, t_eq]
    exact WithBot.bot_lt_coe (rank y)
  · rw [s_eq, t_eq]
    exact WithBot.bot_lt_coe (rank x)
  · exact compares_coe (compareNumbers_compares x_defined y_defined)

theorem keyed_of_texts
    (never : ∀ row ∈ rows, ∀ value, row.lookup field = some value → ¬value.IsNumber) :
    Keyed rows fun row other => compareValues (row.lookup field) (other.lookup field) := by
  refine ⟨WithBot String, inferInstance, fun row => text? (row.lookup field), ?_⟩
  intro row row_mem other other_mem
  beta_reduce
  rw [compareValues]
  split
  · next x y x_eq y_eq =>
      -- Numbers that are undefined are all the same.
      rcases Option.bind_eq_some_iff.mp x_eq with ⟨value, value_eq, xvalue_eq⟩
      rcases Option.bind_eq_some_iff.mp y_eq with ⟨next, next_eq, ynext_eq⟩
      obtain ⟨rfl, undefined⟩ :=
        Json.eq_undefined_of_not_isNumber xvalue_eq (never row row_mem value value_eq)
      obtain ⟨rfl, nextUndefined⟩ :=
        Json.eq_undefined_of_not_isNumber ynext_eq (never other other_mem next next_eq)
      obtain rfl := eq_of_isNaN undefined nextUndefined
      have same : compareNumbers x x = .eq := by simp [compareNumbers, float_lt_iff]
      rw [same, value_eq, next_eq]
      rfl
  · exact compareTexts_compares ..

/-- Rows are compared by keys in a column that is not mixed. -/
theorem keyed_compareBy (unmixed : ¬Mixed rows field) (direction : Direction) :
    Keyed rows (compareBy field direction) := by
  have keyed : Keyed rows fun row other =>
      compareValues (row.lookup field) (other.lookup field) := by
    rw [Mixed, not_and_or] at unmixed
    rcases unmixed with never | all
    · apply keyed_of_texts
      exact fun row row_mem value value_eq isNumber =>
        never ⟨row, row_mem, value, value_eq, isNumber⟩
    · apply keyed_of_numbers
      intro row row_mem value value_eq present
      by_contra notNumber
      exact all ⟨row, row_mem, value, value_eq, present, notNumber⟩
  cases direction with
  | ascending => exact keyed
  | descending => exact keyed.swap

/-- If no column is mixed, then rows are compared by keys, and whatever comes after an ordering only
tells those apart that it leaves tied. -/
theorem keyed_compareByAll
    (unmixed : ∀ ordering ∈ orderings, ¬Mixed rows ordering.1) :
    Keyed rows (compareByAll orderings) := by
  induction orderings with
  | nil => exact ⟨Unit, inferInstance, fun _ => (), fun _ _ _ _ => rfl⟩
  | cons ordering orderings ih =>
      rcases List.forall_mem_cons.mp unmixed with ⟨notFirst, allRest⟩
      exact (keyed_compareBy notFirst ordering.2).then (ih allRest)

end Row

/-! ## Sorted rows -/

/-- The rows of a query are in the order of its orderings, and rows that are tied by all of them are
in the order in which they are stored, if no column that is ordered by is mixed. -/
theorem Query.ordered_of_unmixed {query : Query}
    (unmixed : ∀ ordering ∈ query.orderings, ¬Row.Mixed query.matching ordering.1) :
    (query.ordered.Pairwise fun row other =>
        Row.AheadByAll query.orderings row other ∨ Row.Tied query.orderings row other) ∧
      ∀ row ∈ query.matching,
        query.ordered.filter (fun other => decide (Row.Tied query.orderings row other)) =
          query.matching.filter fun other => decide (Row.Tied query.orderings row other) := by
  rcases Row.keyed_compareByAll unmixed with ⟨β, order, key, allKey⟩
  have less : ∀ row ∈ query.matching, ∀ other ∈ query.matching,
      (Row.compareByAll query.orderings row other == .lt) = true ↔ key row < key other := by
    intro row row_mem other other_mem
    rw [beq_iff_eq]
    exact (allKey row row_mem other other_mem).eq_lt
  have tied : ∀ row ∈ query.matching, ∀ other ∈ query.matching,
      Row.Tied query.orderings row other ↔ key other = key row := by
    intro row row_mem other other_mem
    rw [← Row.compareByAll_eq_eq_iff, (allKey row row_mem other other_mem).eq_eq, eq_comm]
  constructor
  · refine (pairwise_sortStable less).imp_of_mem fun {row other} row_mem other_mem le => ?_
    have row_mem := mem_sortStable.mp row_mem
    have other_mem := mem_sortStable.mp other_mem
    rcases lt_or_eq_of_le le with lt | same
    · exact .inl (Row.compareByAll_eq_lt_iff.mp ((allKey row row_mem other other_mem).eq_lt.mpr lt))
    · exact .inr ((tied row row_mem other other_mem).mpr same.symm)
  · intro row row_mem
    have classes : ∀ other ∈ query.matching,
        decide (Row.Tied query.orderings row other) = decide (key other = key row) :=
      fun other other_mem => decide_eq_decide.mpr (tied row row_mem other other_mem)
    calc query.ordered.filter (fun other => decide (Row.Tied query.orderings row other))
      _ = query.ordered.filter fun other => decide (key other = key row) :=
          List.filter_congr fun other other_mem => classes other (mem_sortStable.mp other_mem)
      _ = query.matching.filter fun other => decide (key other = key row) :=
          filter_sortStable less (key row)
      _ = query.matching.filter fun other => decide (Row.Tied query.orderings row other) :=
          (List.filter_congr classes).symm

end Memory

end Listing
