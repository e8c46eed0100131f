import Listing.Memory.Row
import Listing.Proofs.Memory.FloatOrder

/-!
# The order of rows held in memory

A field that is missing or null precedes all others, a number precedes a greater number, and other
fields are in the order of their texts.  Of several orderings the first one counts most, and a
descending one turns only its own field around.  This is what the comparison of rows decides
(`Row.compareByAll_eq_lt_iff` and `Row.compareByAll_eq_eq_iff`).
-/

namespace Listing

namespace Memory

namespace Row

/-! ## Fields -/

/-- One field of a row precedes another: it is missing or null and the other is not, or both are
numbers and it is less, or they are not both numbers and its text is less. -/
inductive Precedes : Option Json → Option Json → Prop
  | absent {a : Option Json} {value : Json} (absent_cases : a = none ∨ a = some .null)
      (present : value ≠ .null) : Precedes a (some value)
  | numbers {value other : Json} {x y : Float} (value_eq : value.asFloat? = some x)
      (other_eq : other.asFloat? = some y) (lt : x < y) : Precedes (some value) (some other)
  | texts {value other : Json} {text otherText : String}
      (kind_cases : value.asFloat? = none ∨ other.asFloat? = none)
      (value_eq : text? (some value) = some text) (other_eq : text? (some other) = some otherText)
      (lt : text < otherText) : Precedes (some value) (some other)

theorem text?_eq_none_iff {a : Option Json} : text? a = none ↔ a = none ∨ a = some .null := by
  rcases a with _ | value
  · simp [text?]
  · cases value <;> simp [text?]

theorem compareTexts_compares (s t : Option String) :
    (compareTexts s t).Compares (show WithBot String from s) t := by
  rcases s with _ | s <;> rcases t with _ | t
  case none.none => exact rfl
  case none.some => exact WithBot.bot_lt_coe t
  case some.none => exact WithBot.bot_lt_coe s
  case some.some =>
    rw [compareTexts]
    split_ifs with less same
    · exact WithBot.coe_lt_coe.mpr less
    · exact congrArg some same
    · exact WithBot.coe_lt_coe.mpr (lt_of_le_of_ne (not_lt.mp less) (Ne.symm same))

theorem compareTexts_swap (s t : Option String) : (compareTexts s t).swap = compareTexts t s :=
  (Ordering.compares_swap.mpr (compareTexts_compares s t)).inj (compareTexts_compares t s)

theorem compareTexts_eq_lt_iff {s t : Option String} :
    compareTexts s t = .lt ↔
      s = none ∧ t ≠ none ∨ ∃ text other, s = some text ∧ t = some other ∧ text < other := by
  rw [(compareTexts_compares s t).eq_lt]
  rcases s with _ | s <;> rcases t with _ | t
  case none.none => exact iff_of_false (lt_irrefl _) (by simp)
  case none.some => exact iff_of_true (WithBot.bot_lt_coe t) (by simp)
  case some.none => exact iff_of_false (not_lt_of_gt (WithBot.bot_lt_coe s)) (by simp)
  case some.some =>
    refine WithBot.coe_lt_coe.trans ⟨fun lt => .inr ⟨s, t, rfl, rfl, lt⟩, ?_⟩
    rintro (⟨eq_none, _⟩ | ⟨_, _, s_eq, t_eq, lt⟩)
    · cases eq_none
    · cases s_eq
      cases t_eq
      exact lt

theorem compareNumbers_eq_lt_iff {x y : Float} : compareNumbers x y = .lt ↔ x < y := by
  rw [compareNumbers]
  split_ifs with less <;> simp [less]

theorem compareNumbers_swap (x y : Float) : (compareNumbers x y).swap = compareNumbers y x := by
  rw [compareNumbers, compareNumbers]
  split_ifs with less greater
  · exact absurd greater (float_lt_asymm less)
  · rfl
  · rfl
  · rfl

theorem compareValues_swap (a b : Option Json) :
    (compareValues a b).swap = compareValues b a := by
  rw [compareValues, compareValues]
  cases a.bind Json.asFloat? <;> cases b.bind Json.asFloat?
  case some.some x y => exact compareNumbers_swap x y
  all_goals exact compareTexts_swap ..

/-- The comparison of two fields tells whether one precedes the other. -/
theorem compareValues_eq_lt_iff {a b : Option Json} : compareValues a b = .lt ↔ Precedes a b := by
  constructor
  · intro compares_eq
    rw [compareValues] at compares_eq
    split at compares_eq
    · next x y x_eq y_eq =>
        rcases Option.bind_eq_some_iff.mp x_eq with ⟨value, rfl, value_eq⟩
        rcases Option.bind_eq_some_iff.mp y_eq with ⟨other, rfl, other_eq⟩
        exact .numbers value_eq other_eq (compareNumbers_eq_lt_iff.mp compares_eq)
    · next notNumbers =>
        rcases compareTexts_eq_lt_iff.mp compares_eq with
          ⟨absent_eq, present⟩ | ⟨s, t, s_eq, t_eq, lt⟩
        · rw [text?_eq_none_iff] at absent_eq
          rw [ne_eq, text?_eq_none_iff, not_or] at present
          obtain ⟨other, rfl⟩ := Option.ne_none_iff_exists'.mp present.1
          exact .absent absent_eq fun null_eq => present.2 (congrArg some null_eq)
        · rcases a with _ | value
          · cases s_eq
          rcases b with _ | other
          · cases t_eq
          refine .texts ?_ s_eq t_eq lt
          by_contra notNumbers
          simp only [not_or, Option.ne_none_iff_exists'] at notNumbers
          obtain ⟨⟨x, x_eq⟩, y, y_eq⟩ := notNumbers
          exact notNumbers x y x_eq y_eq
  · intro precedes
    cases precedes with
    | @absent a value absent_eq present =>
        have number_eq : a.bind Json.asFloat? = none := by rcases absent_eq with rfl | rfl <;> rfl
        have text_ne : text? (some value) ≠ none := by simp [text?_eq_none_iff, present]
        rw [compareValues, number_eq]
        exact compareTexts_eq_lt_iff.mpr (.inl ⟨text?_eq_none_iff.mpr absent_eq, text_ne⟩)
    | numbers value_eq other_eq lt =>
        rw [compareValues, Option.bind_some, Option.bind_some, value_eq, other_eq]
        exact compareNumbers_eq_lt_iff.mpr lt
    | @texts value other _ _ absent_eq value_eq other_eq lt =>
        have compares_eq := compareTexts_eq_lt_iff.mpr (.inr ⟨_, _, value_eq, other_eq, lt⟩)
        rw [compareValues, Option.bind_some, Option.bind_some]
        rcases absent_eq with absent_eq | absent_eq
        · rw [absent_eq]
          exact compares_eq
        · rw [absent_eq]
          cases value.asFloat? <;> exact compares_eq

theorem compareValues_eq_gt_iff {a b : Option Json} : compareValues a b = .gt ↔ Precedes b a := by
  rw [← compareValues_eq_lt_iff, ← compareValues_swap b a, Ordering.swap_eq_gt]

instance (a b : Option Json) : Decidable (Precedes a b) :=
  decidable_of_iff _ compareValues_eq_lt_iff

/-! ## Rows -/

/-- One row is ahead of another by an ordering: its field precedes that of the other, or the other
way round if the ordering is descending. -/
def Ahead (ordering : String × Direction) (row other : Row) : Prop :=
  match ordering.2 with
  | .ascending => Precedes (row.lookup ordering.1) (other.lookup ordering.1)
  | .descending => Precedes (other.lookup ordering.1) (row.lookup ordering.1)

variable {ordering : String × Direction} {orderings : List (String × Direction)} {row other : Row}

theorem compareBy_eq_lt_iff :
    compareBy ordering.1 ordering.2 row other = .lt ↔ Ahead ordering row other := by
  rcases ordering with ⟨field, _ | _⟩
  · exact compareValues_eq_lt_iff
  · rw [compareBy, Ordering.swap_eq_lt]
    exact compareValues_eq_gt_iff

theorem compareBy_swap (field : String) (direction : Direction) (row other : Row) :
    (compareBy field direction row other).swap = compareBy field direction other row := by
  cases direction with
  | ascending => exact compareValues_swap ..
  | descending => exact congrArg Ordering.swap (compareValues_swap ..)

theorem compareBy_eq_gt_iff :
    compareBy ordering.1 ordering.2 row other = .gt ↔ Ahead ordering other row := by
  rw [← compareBy_eq_lt_iff, ← compareBy_swap ordering.1 ordering.2 other row,
    Ordering.swap_eq_gt]

instance (ordering : String × Direction) (row other : Row) :
    Decidable (Ahead ordering row other) :=
  decidable_of_iff _ compareBy_eq_lt_iff

/-- No ordering puts one of the rows ahead of the other. -/
def Tied (orderings : List (String × Direction)) (row other : Row) : Prop :=
  ∀ ordering ∈ orderings, ¬Ahead ordering row other ∧ ¬Ahead ordering other row

instance (orderings : List (String × Direction)) (row other : Row) :
    Decidable (Tied orderings row other) :=
  inferInstanceAs (Decidable (∀ ordering ∈ orderings, _))

/-- One row is ahead of another by the first ordering that does not leave them tied. -/
def AheadByAll (orderings : List (String × Direction)) (row other : Row) : Prop :=
  ∃ before ordering after, orderings = before ++ ordering :: after ∧ Tied before row other ∧
    Ahead ordering row other

theorem compareBy_eq_eq_iff :
    compareBy ordering.1 ordering.2 row other = .eq ↔
      ¬Ahead ordering row other ∧ ¬Ahead ordering other row := by
  rw [← compareBy_eq_lt_iff, ← compareBy_eq_gt_iff]
  cases compareBy ordering.1 ordering.2 row other <;> simp

theorem tied_cons_iff :
    Tied (ordering :: orderings) row other ↔
      (¬Ahead ordering row other ∧ ¬Ahead ordering other row) ∧ Tied orderings row other :=
  List.forall_mem_cons

theorem aheadByAll_cons_iff :
    AheadByAll (ordering :: orderings) row other ↔
      Ahead ordering row other ∨
        (¬Ahead ordering row other ∧ ¬Ahead ordering other row) ∧
          AheadByAll orderings row other := by
  constructor
  · rintro ⟨before, decisive, after, split_eq, tied, ahead⟩
    rcases before with _ | ⟨first, before⟩
    · cases split_eq
      exact .inl ahead
    · cases split_eq
      rw [tied_cons_iff] at tied
      exact .inr ⟨tied.1, before, decisive, after, rfl, tied.2, ahead⟩
  · rintro (ahead | ⟨first_both, before, decisive, after, rfl, tied, ahead⟩)
    · exact ⟨[], ordering, orderings, rfl, List.forall_mem_nil _, ahead⟩
    · exact ⟨ordering :: before, decisive, after, rfl, tied_cons_iff.mpr ⟨first_both, tied⟩, ahead⟩

/-- The comparison by several orderings tells whether a row is ahead of another by all of them. -/
theorem compareByAll_eq_lt_iff :
    compareByAll orderings row other = .lt ↔ AheadByAll orderings row other := by
  induction orderings with
  | nil => simp [compareByAll, AheadByAll]
  | cons ordering orderings ih =>
      rw [compareByAll, Ordering.then_eq_lt, compareBy_eq_lt_iff, compareBy_eq_eq_iff, ih,
        aheadByAll_cons_iff]

theorem compareByAll_eq_eq_iff :
    compareByAll orderings row other = .eq ↔ Tied orderings row other := by
  induction orderings with
  | nil => simp [compareByAll, Tied]
  | cons ordering orderings ih =>
      rw [compareByAll, Ordering.then_eq_eq, compareBy_eq_eq_iff, ih, tied_cons_iff]

end Row

end Memory

end Listing
