import Listing.Sql.Query
import Mathlib.Data.String.Basic

/-!
# Placeholders

In the statements of a selection there are as many placeholders as bound values, whatever the names
and the ordering expressions in the selection are (`Select.placeholders_statement`): the statements
are made of inert texts, and each bound value leaves one placeholder behind.
-/

namespace Listing.Sql

namespace Dialect

variable {dialect : Dialect}

/-! ## Inert texts -/

theorem inert_intercalate {separator : String} (separatorInert : dialect.Inert separator)
    {texts : List String} (allTexts : ∀ text ∈ texts, dialect.Inert text) :
    dialect.Inert (String.intercalate separator texts) := by
  induction texts with
  | nil => exact fun _ => rfl
  | cons text texts ih =>
      have restInert := ih fun other other_mem => allTexts other (List.mem_cons_of_mem _ other_mem)
      cases texts with
      | nil => simpa using allTexts
      | cons next rest =>
          rw [String.intercalate_cons_cons]
          exact ((allTexts text List.mem_cons_self).append separatorInert).append restInert

theorem isPlain_of_isDigit {c : Char} (digit : c.isDigit) : isPlain c := by
  have noQuote : c ≠ '"' := Decimal.ne_of_isDigit digit rfl
  have noMark : c ≠ Char.ofNat 0x60 := Decimal.ne_of_isDigit digit rfl
  have noQuestion : c ≠ '?' := Decimal.ne_of_isDigit digit rfl
  have noDollar : c ≠ '$' := Decimal.ne_of_isDigit digit rfl
  simp [isPlain, noQuote, noMark, noQuestion, noDollar]

theorem inert_toString (n : Nat) : dialect.Inert (toString n) := by
  apply inert_of_isPlain
  rw [List.all_eq_true]
  exact fun c c_mem => isPlain_of_isDigit (Decimal.isDigit_of_mem_toString c_mem)

theorem readAll_placeholder (count position : Nat) :
    dialect.readAll ⟨false, count⟩ (dialect.placeholder position) = ⟨false, count + 1⟩ := by
  cases dialect with
  | postgres =>
      have sign_eq : postgres.readAll ⟨false, count⟩ "$" = ⟨false, count + 1⟩ := rfl
      rw [placeholder, readAll_append, sign_eq]
      exact inert_toString position _
  | sqlite | mysql => simp [placeholder, readAll, read, quote, sign]

end Dialect

/-! ## Fragments -/

variable {dialect : Dialect}

namespace Fragment

theorem inert_separated {separator : String} (separatorInert : dialect.Inert separator)
    {pieces : List (List Fragment)} (allPieces : ∀ piece ∈ pieces, Inert dialect piece) :
    Inert dialect (separated separator pieces) := by
  fun_induction separated separator pieces with
  | case1 => exact inert_nil
  | case2 piece => exact allPieces piece List.mem_cons_self
  | case3 piece next rest ih =>
      have restInert := ih fun other other_mem => allPieces other (List.mem_cons_of_mem _ other_mem)
      simp [allPieces piece List.mem_cons_self, separatorInert, restInert]

/-- In the text of fragments there is a placeholder for every value, and no other. -/
theorem readAll_textFrom {fragments : List Fragment} (inert : Inert dialect fragments)
    (count position : Nat) :
    dialect.readAll ⟨false, count⟩ (textFrom dialect position fragments) =
      ⟨false, count + (valuesOf fragments).length⟩ := by
  induction fragments generalizing count position with
  | nil => rfl
  | cons fragment fragments ih =>
      cases fragment with
      | text s =>
          obtain ⟨textInert, restInert⟩ := inert_text_cons.mp inert
          rw [textFrom, Dialect.readAll_append, textInert, ih restInert]
          rfl
      | bind value =>
          have restInert := inert_bind_cons.mp inert
          rw [textFrom, Dialect.readAll_append, Dialect.readAll_placeholder, ih restInert,
            Nat.add_right_comm, Nat.add_assoc]
          rfl

end Fragment

theorem Statement.placeholders_ofFragments {fragments : List Fragment}
    (inert : Fragment.Inert dialect fragments) :
    dialect.placeholders (ofFragments dialect fragments).text =
      (ofFragments dialect fragments).values.length := by
  rw [Dialect.placeholders, ofFragments, Fragment.textOf, Fragment.readAll_textFrom inert,
    Nat.zero_add]

/-! ## Selections -/

open Dialect (inert_quoteName inert_of_isPlain Inert.append)

theorem SortKey.inert_fragments (key : SortKey) :
    Fragment.Inert dialect (key.fragments dialect) := by
  have direction : dialect.Inert key.directionText := by
    rw [directionText]
    split <;> exact inert_of_isPlain (by decide)
  simp [fragments, key.expression.inert, direction]

namespace Condition

theorem inert_listFragments (values : List Datum) :
    Fragment.Inert dialect (listFragments values) := by
  have valuesInert : Fragment.Inert dialect
      (Fragment.separated ", " (values.map fun value => [.bind value])) :=
    Fragment.inert_separated (inert_of_isPlain (by decide)) (by simp)
  simp [listFragments, valuesInert, inert_of_isPlain, Dialect.isPlain]

/-- A condition is written with inert texts, whatever names and values are in it. -/
theorem inert_fragments (condition : Condition) (alone : Bool) :
    Fragment.Inert dialect (condition.fragments dialect alone) := by
  have allConstants : ∀ left right, Fragment.Inert dialect (constantFragments left right) := by
    simp [constantFragments, inert_of_isPlain, Dialect.isPlain]
  induction condition generalizing alone with
  | atLeast | atMost | equal | like =>
      simp [fragments, Inert.append, ColumnRef.inert_render, inert_of_isPlain, Dialect.isPlain]
  | ilike =>
      cases alone <;>
        simp [fragments, Inert.append, ColumnRef.inert_render, inert_of_isPlain, Dialect.isPlain]
  | isIn | notIn =>
      rw [fragments]
      split
      · exact allConstants _ _
      · simp [Inert.append, ColumnRef.inert_render, inert_of_isPlain, Dialect.isPlain,
          inert_listFragments]
  | constants => exact allConstants _ _
  | «exists» table foreign outer condition ih =>
      have joinInert : dialect.Inert (" FROM " ++ dialect.quoteName table ++ " WHERE " ++
          foreign.render dialect ++ " = " ++ outer.render dialect ++ " AND ") := by
        apply Inert.append _ (inert_of_isPlain (by decide))
        apply Inert.append _ outer.inert_render
        apply Inert.append _ (inert_of_isPlain (by decide))
        apply Inert.append _ foreign.inert_render
        apply Inert.append _ (inert_of_isPlain (by decide))
        exact (inert_of_isPlain (by decide)).append (inert_quoteName table)
      simp [fragments, ih, joinInert, inert_of_isPlain, Dialect.isPlain]

end Condition

namespace Select

variable (select : Select)

theorem inert_headFragments : Fragment.Inert dialect (select.headFragments dialect) := by
  have columnsInert : dialect.Inert (String.intercalate ", "
      (select.columns.map fun name => ColumnRef.render dialect ⟨some select.table, name⟩)) := by
    apply Dialect.inert_intercalate (inert_of_isPlain (by decide))
    simp [ColumnRef.inert_render]
  rw [headFragments, Fragment.inert_text_cons]
  refine ⟨Inert.append ?_ (inert_quoteName select.table), Fragment.inert_nil⟩
  exact ((inert_of_isPlain (by decide)).append columnsInert).append (inert_of_isPlain (by decide))

theorem inert_conditionFragments : Fragment.Inert dialect (select.conditionFragments dialect) := by
  rw [conditionFragments]
  split
  · exact Fragment.inert_nil
  · simp [Condition.inert_fragments, inert_of_isPlain, Dialect.isPlain]
  · rw [Fragment.inert_text_cons]
    refine ⟨inert_of_isPlain (by decide), ?_⟩
    apply Fragment.inert_separated (inert_of_isPlain (by decide))
    simp [Condition.inert_fragments]

theorem inert_orderingFragments : Fragment.Inert dialect (select.orderingFragments dialect) := by
  rw [orderingFragments]
  split
  · exact Fragment.inert_nil
  · rw [Fragment.inert_text_cons]
    refine ⟨inert_of_isPlain (by decide), ?_⟩
    apply Fragment.inert_separated (inert_of_isPlain (by decide))
    simp [SortKey.inert_fragments]

theorem inert_rowsFragments {word : String} (wordInert : dialect.Inert (" " ++ word ++ " "))
    (rows : Option Nat) : Fragment.Inert dialect (rowsFragments word rows) := by
  cases rows <;> simp [rowsFragments, wordInert]

theorem inert_fragments : Fragment.Inert dialect (select.fragments dialect) := by
  have limitInert : Fragment.Inert dialect (rowsFragments "LIMIT" select.limit) :=
    inert_rowsFragments (inert_of_isPlain (by decide)) _
  have offsetInert : Fragment.Inert dialect (rowsFragments "OFFSET" select.offset) :=
    inert_rowsFragments (inert_of_isPlain (by decide)) _
  simp only [fragments, Fragment.inert_append]
  exact ⟨⟨⟨⟨select.inert_headFragments, select.inert_conditionFragments⟩,
    select.inert_orderingFragments⟩, limitInert⟩, offsetInert⟩

variable {select} {statement : Statement}

/-- The statement that fetches the rows of a selection has as many placeholders as values. -/
theorem placeholders_statement
    (statement_eq : select.statement? dialect = some statement) :
    dialect.placeholders statement.text = statement.values.length := by
  obtain ⟨_, ⟨⟩⟩ := Option.ite_none_right_eq_some.mp statement_eq
  exact Statement.placeholders_ofFragments select.inert_fragments

theorem placeholders_countStatement
    (statement_eq : select.countStatement? dialect = some statement) :
    dialect.placeholders statement.text = statement.values.length := by
  obtain ⟨_, ⟨⟩⟩ := Option.ite_none_right_eq_some.mp statement_eq
  apply Statement.placeholders_ofFragments
  have opened : dialect.Inert ("SELECT COUNT(*) AS " ++ countColumn ++ " FROM (") :=
    inert_of_isPlain (by decide)
  have closed : dialect.Inert (") AS " ++ dialect.quoteName "sub_query") :=
    (inert_of_isPlain (by decide)).append (inert_quoteName _)
  simp [opened, closed, select.unpaged.inert_fragments]

end Select

end Listing.Sql
