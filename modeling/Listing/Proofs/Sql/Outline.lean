import Listing.Proofs.Sql.Conditions

/-!
# Outlines

The outline of a selection is the selection without the values in its conditions and without its
limit and offset: the lengths of lists stay, and so does whether there is a limit and an offset.  No
call of a request binds a value in an ordering, and orderings stay as they are.  The text of a
statement is that of the outline (`Select.text_congr`).  Calls that differ in values only lead from
queries with one outline to queries with one outline (`Query.Alike.attemptAll`).
-/

namespace Listing.Sql

/-! ## Selections without their values -/

/-- Pieces of the same shapes have the same shape when they are put together. -/
theorem Fragment.shape_separated_congr (separator : String) {pieces others : List (List Fragment)}
    (shapes_eq : pieces.map (List.map shape) = others.map (List.map shape)) :
    (separated separator pieces).map shape = (separated separator others).map shape := by
  fun_induction separated separator pieces generalizing others with
  | case1 =>
      obtain rfl := List.map_eq_nil_iff.mp shapes_eq.symm
      rfl
  | case2 piece =>
      obtain ⟨other, rfl, other_eq⟩ := List.map_eq_singleton_iff.mp shapes_eq.symm
      exact other_eq.symm
  | case3 piece next rest ih =>
      obtain ⟨other, others, rfl, other_eq, rest_eq⟩ := List.map_eq_cons_iff.mp shapes_eq.symm
      obtain ⟨otherNext, otherRest, rfl, _, _⟩ := List.map_eq_cons_iff.mp rest_eq
      simp only [separated, List.map_append, List.map_cons, ih rest_eq.symm, other_eq]

namespace Condition

/-- The condition with a value of no meaning in place of each of its values. -/
def outline : Condition → Condition
  | atLeast column _ => atLeast column default
  | atMost column _ => atMost column default
  | equal column _ => equal column default
  | like column _ => like column ""
  | ilike column _ => ilike column ""
  | isIn column values => isIn column (values.map fun _ => default)
  | notIn column values => notIn column (values.map fun _ => default)
  | constants _ _ => constants default default
  | .exists table foreign outer condition => .exists table foreign outer condition.outline

theorem isExpressible_outline (dialect : Dialect) (condition : Condition) :
    condition.outline.isExpressible dialect = condition.isExpressible dialect := by
  induction condition with
  | «exists» table foreign outer condition ih => exact ih
  | _ => rfl

theorem shape_listFragments_congr {values others : List Datum}
    (length_eq : values.length = others.length) :
    (listFragments values).map Fragment.shape = (listFragments others).map Fragment.shape := by
  have allShapes : ∀ values : List Datum, (values.map fun value => [Fragment.bind value]).map
      (List.map Fragment.shape) = List.replicate values.length [none] := by
    intro values
    simp [Function.comp_def, Fragment.shape]
  have values_eq := Fragment.shape_separated_congr ", "
    ((allShapes values).trans (length_eq ▸ (allShapes others).symm))
  simp only [listFragments, List.map_append, List.map_cons, values_eq]

/-- The values of a condition have no part in the texts that it is written with. -/
theorem shape_fragments_outline (dialect : Dialect) (alone : Bool) (condition : Condition) :
    (condition.outline.fragments dialect alone).map Fragment.shape =
      (condition.fragments dialect alone).map Fragment.shape := by
  induction condition generalizing alone with
  | ilike column pattern => cases alone <;> rfl
  | isIn column values | notIn column values =>
      simp only [outline, fragments, List.isEmpty_map]
      split
      · rfl
      · simp only [List.map_cons, shape_listFragments_congr (List.length_map ..)]
  | «exists» table foreign outer condition ih =>
      simp only [outline, fragments, List.map_append, ih]
  | _ => rfl

end Condition

/-- The change with its values left out, those of an ordering aside. -/
def Edit.outline : Edit → Edit
  | keep condition => keep condition.outline
  | limit _ => limit 0
  | offset _ => offset 0
  | edit => edit

namespace Select

/-- The selection with a value of no meaning in place of each of its values, those of its orderings
aside. -/
def outline (select : Select) : Select :=
  { select with
    conditions := select.conditions.map Condition.outline
    limit := select.limit.map fun _ => 0
    offset := select.offset.map fun _ => 0 }

theorem outline_edit (select : Select) (edit : Edit) :
    (select.edit edit).outline = select.outline.edit edit.outline := by
  cases edit with
  | keep condition => simp [Select.edit, outline, Edit.outline]
  | _ => rfl

theorem outline_editAll (select : Select) (edits : List Edit) :
    (select.editAll edits).outline = select.outline.editAll (edits.map Edit.outline) := by
  induction edits generalizing select with
  | nil => rfl
  | cons edit edits ih =>
      calc (select.editAll (edit :: edits)).outline
        _ = (select.edit edit).outline.editAll (edits.map Edit.outline) := ih _
        _ = (select.outline.edit edit.outline).editAll (edits.map Edit.outline) := by
            rw [outline_edit]

theorem isExpressible_outline (dialect : Dialect) (select : Select) :
    select.outline.isExpressible dialect = select.isExpressible dialect := by
  simp only [isExpressible, outline, List.all_map]
  exact List.all_congr rfl (Condition.isExpressible_outline dialect)

theorem shape_conditionFragments_outline (dialect : Dialect) (select : Select) :
    (select.outline.conditionFragments dialect).map Fragment.shape =
      (select.conditionFragments dialect).map Fragment.shape := by
  rcases select with ⟨table, columns, conditions, orderings, limit, offset⟩
  match conditions with
  | [] => rfl
  | [condition] =>
      simp only [conditionFragments, outline, List.map_cons, List.map_nil,
        condition.shape_fragments_outline]
  | condition :: next :: rest =>
      simp only [conditionFragments, outline, List.map_cons]
      apply congrArg
      apply Fragment.shape_separated_congr
      simp only [List.map_cons, List.map_map, Function.comp_def, Condition.shape_fragments_outline]

theorem shape_fragments_outline (dialect : Dialect) (select : Select) :
    (select.outline.fragments dialect).map Fragment.shape =
      (select.fragments dialect).map Fragment.shape := by
  have allRows : ∀ word rows, (rowsFragments word (rows.map fun _ => 0)).map Fragment.shape =
      (rowsFragments word rows).map Fragment.shape := by
    intro word rows
    cases rows <;> rfl
  simp only [fragments, List.map_append, shape_conditionFragments_outline]
  simp only [outline, allRows]
  rfl

/-- The texts of the statements for a selection are those for its outline. -/
theorem text_congr {select other : Select} (outline_eq : select.outline = other.outline)
    (dialect : Dialect) :
    (select.statement? dialect).map Statement.text =
        (other.statement? dialect).map Statement.text ∧
      (select.countStatement? dialect).map Statement.text =
        (other.countStatement? dialect).map Statement.text := by
  have expressible : select.isExpressible dialect = other.isExpressible dialect := by
    rw [← isExpressible_outline, outline_eq, isExpressible_outline]
  have shape_eq : (select.fragments dialect).map Fragment.shape =
      (other.fragments dialect).map Fragment.shape := by
    rw [← shape_fragments_outline, outline_eq, shape_fragments_outline]
  have unpaged_eq : (select.unpaged.fragments dialect).map Fragment.shape =
      (other.unpaged.fragments dialect).map Fragment.shape := by
    have unpagedOutline_eq : select.unpaged.outline = other.unpaged.outline :=
      congrArg unpaged outline_eq
    rw [← shape_fragments_outline, unpagedOutline_eq, shape_fragments_outline]
  rw [statement?, statement?, countStatement?, countStatement?, expressible]
  split
  · refine ⟨congrArg some (Fragment.textOf_congr dialect shape_eq),
      congrArg some (Fragment.textOf_congr dialect ?_)⟩
    simp only [List.map_append, unpaged_eq]
  · exact ⟨rfl, rfl⟩

end Select

/-! ## Calls that differ in values -/

/-- Two calls on queries for an entity differ in values at most.  Of a list that is compared with a
field of the entity only the items count that are bound. -/
inductive CallsAlike (entity : Entity) : Call → Call → Prop
  | atLeast (field : String) (value other : Value) :
      CallsAlike entity (.atLeast field value) (.atLeast field other)
  | atMost (field : String) (value other : Value) :
      CallsAlike entity (.atMost field value) (.atMost field other)
  | like (field pattern other : String) (operator : LikeOperator) :
      CallsAlike entity (.like field pattern operator) (.like field other operator)
  | isIn (field : String) {items others : List String}
      (bound_length : (items.filterMap (entity.bind? field)).length =
        (others.filterMap (entity.bind? field)).length) :
      CallsAlike entity (.isIn field items) (.isIn field others)
  | notIn (field : String) {items others : List String}
      (bound_length : (items.filterMap (entity.bind? field)).length =
        (others.filterMap (entity.bind? field)).length) :
      CallsAlike entity (.notIn field items) (.notIn field others)
  | hasIn (relation field : String) {items others : List String}
      (length_eq : items.length = others.length) :
      CallsAlike entity (.hasIn relation field items) (.hasIn relation field others)
  | hasEq (relation field item other : String) :
      CallsAlike entity (.hasEq relation field item) (.hasEq relation field other)
  | orderBy (field : String) (direction : Direction) :
      CallsAlike entity (.orderBy field direction) (.orderBy field direction)
  | applyScope (name : String) (arguments : List Json) :
      CallsAlike entity (.applyScope name arguments) (.applyScope name arguments)
  | withoutEagerLoading : CallsAlike entity .withoutEagerLoading .withoutEagerLoading
  | limit (rows others : Nat) : CallsAlike entity (.limit rows) (.limit others)
  | offset {rows others : Nat} (zero_iff : rows = 0 ↔ others = 0) :
      CallsAlike entity (.offset rows) (.offset others)
  | stripPagination : CallsAlike entity .stripPagination .stripPagination

theorem CallsAlike.refl (entity : Entity) (call : Call) : CallsAlike entity call call := by
  cases call <;> constructor <;> rfl

namespace Query

/-- Two queries for an entity differ in values at most, those of limits and offsets included.  The
mark for lean responses is not looked at, since it is no part of a statement. -/
structure Alike (entity : Entity) (query other : Query) : Prop where
  entity_eq : query.entity = entity
  base : query.SameBase other
  outline : query.select.outline = other.select.outline
  limited : query.limit.isSome = other.limit.isSome

theorem Alike.refl (query : Query) : Alike query.entity query query :=
  ⟨rfl, ⟨rfl, rfl, rfl, rfl, rfl, rfl⟩, rfl, rfl⟩

variable {entity : Entity} {query other : Query}

theorem Alike.editAll (alike : Alike entity query other)
    (edits otherEdits : List Edit)
    (edits_eq : edits.map Edit.outline = otherEdits.map Edit.outline)
    {limit otherLimit offset otherOffset : Option Nat} {eager otherEager : Bool}
    (limited : limit.isSome = otherLimit.isSome) :
    Alike entity
      { query with
        select := query.select.editAll edits
        eagerLoading := eager
        limit := limit
        offset := offset }
      { other with
        select := other.select.editAll otherEdits
        eagerLoading := otherEager
        limit := otherLimit
        offset := otherOffset } := by
  obtain ⟨rfl, ⟨entity_eq, connection_eq, relations_eq, scopes_eq, table_eq, columns_eq⟩,
    outline_eq, _⟩ := alike
  obtain ⟨editTable_eq, editColumns_eq, _⟩ := Select.editAll_conditions query.select edits
  obtain ⟨otherTable_eq, otherColumns_eq, _⟩ := Select.editAll_conditions other.select otherEdits
  refine ⟨rfl, ⟨entity_eq, connection_eq, relations_eq, scopes_eq, ?_, ?_⟩, ?_, limited⟩
  · exact editTable_eq.trans (table_eq.trans otherTable_eq.symm)
  · exact editColumns_eq.trans (columns_eq.trans otherColumns_eq.symm)
  · simp only [Select.outline_editAll, outline_eq, edits_eq]

theorem Alike.mark (alike : Alike entity query other) (marked otherMarked : Prop)
    [Decidable marked] [Decidable otherMarked] :
    Alike entity (Source.attemptAll query (if marked then [.withoutEagerLoading] else []))
      (Source.attemptAll other (if otherMarked then [.withoutEagerLoading] else [])) := by
  split
  · split <;> exact alike.editAll [] [] rfl alike.limited
  · split <;> exact alike.editAll [] [] rfl alike.limited

theorem Alike.keep (alike : Alike entity query other)
    {condition otherCondition : Condition}
    (condition_eq : condition.outline = otherCondition.outline) :
    Alike entity (query.keep condition) (other.keep otherCondition) :=
  alike.editAll [.keep condition] [.keep otherCondition]
    (by simp only [List.map_cons, Edit.outline, condition_eq]) alike.limited

theorem Alike.column_eq (alike : Alike entity query other) :
    query.column = other.column := by
  funext field
  rw [column, column, alike.base.entity]

theorem Alike.keepRelated (alike : Alike entity query other)
    (name field : String) (condition otherCondition : ColumnRef → Condition)
    (allCondition : ∀ column, (condition column).outline = (otherCondition column).outline) :
    Alike entity (query.keepRelated name field condition)
      (other.keepRelated name field otherCondition) := by
  rw [Query.keepRelated, Query.keepRelated, alike.base.relations]
  split
  · exact alike.keep rfl
  · exact alike.keep (by simp only [Condition.outline, alike.column_eq, allCondition])

/-- Offsets that are zero together change the outline in the same way: whether a limit is set along
with them depends on what both queries have in common. -/
theorem Alike.setOffset (alike : Alike entity query other) {rows otherRows : Nat}
    (zero_iff : rows = 0 ↔ otherRows = 0) :
    Alike entity (query.setOffset rows) (other.setOffset otherRows) := by
  have limited : query.limit.isNone = other.limit.isNone := by
    rw [← Option.not_isSome, alike.limited, Option.not_isSome]
  refine alike.editAll _ _ ?_ alike.limited
  by_cases rows_eq : rows = 0
  · rw [if_pos rows_eq, if_pos (zero_iff.mp rows_eq)]
  · rw [if_neg rows_eq, if_neg (mt zero_iff.mpr rows_eq), limited]
    split <;> rfl

/-- Calls that differ in values lead from queries that differ in values to such queries. -/
theorem Alike.attempt (alike : Alike entity query other) {call otherCall : Call}
    (callsAlike : CallsAlike entity call otherCall) :
    Alike entity (Source.attempt query call) (Source.attempt other otherCall) := by
  have column_eq := alike.column_eq
  cases callsAlike with
  | atLeast field value otherValue | atMost field value otherValue =>
      exact alike.keep (by simp only [Condition.outline, column_eq])
  | like field pattern otherPattern operator =>
      cases operator <;> exact alike.keep (by simp only [Condition.outline, column_eq])
  | isIn field bound_length | notIn field bound_length =>
      have entity_eq := alike.base.entity.symm.trans alike.entity_eq
      refine alike.keep ?_
      simp only [Condition.outline, column_eq, bindAll, List.map_const', bound_length,
        alike.entity_eq, entity_eq]
  | @hasIn relation field items otherItems length_eq =>
      refine alike.keepRelated relation field (fun column => .isIn column (items.map Datum.loose))
        (fun column => .isIn column (otherItems.map Datum.loose)) fun column => ?_
      simp only [Condition.outline, List.map_const', List.length_map, length_eq]
  | hasEq relation field item otherItem =>
      exact alike.keepRelated relation field (fun column => .equal column (Datum.loose item))
        (fun column => .equal column (Datum.loose otherItem)) fun _ => rfl
  | orderBy field direction =>
      exact alike.editAll [.orderBy ⟨.ofColumn (query.column field), direction⟩]
        [.orderBy ⟨.ofColumn (other.column field), direction⟩] (by rw [column_eq]) alike.limited
  | applyScope name arguments =>
      have scopes_eq := congrArg (Bindings.last? name) alike.base.scopes
      simp only [Source.attempt, Source.perform, perform, scopes_eq]
      cases Bindings.last? name other.scopes with
      | none => exact alike
      | some scope => exact alike.editAll (scope arguments) (scope arguments) rfl alike.limited
  | withoutEagerLoading => exact alike.editAll [] [] rfl alike.limited
  | limit rows otherRows =>
      refine alike.editAll [.limit rows] [.limit otherRows] rfl ?_
      rfl
  | offset zero_iff => exact alike.setOffset zero_iff
  | stripPagination =>
      exact alike.editAll [.clearLimit, .clearOffset, .clearOrderings]
        [.clearLimit, .clearOffset, .clearOrderings] rfl rfl

/-- So do lists of such calls. -/
theorem Alike.attemptAll (alike : Alike entity query other) {calls otherCalls : List Call}
    (paired : List.Forall₂ (CallsAlike entity) calls otherCalls) :
    Alike entity (Source.attemptAll query calls) (Source.attemptAll other otherCalls) := by
  induction paired generalizing query other with
  | nil => exact alike
  | cons callsAlike _ ih => exact ih (alike.attempt callsAlike)

end Query

end Listing.Sql
