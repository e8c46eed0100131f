import Listing.Catalogue.Gauges
import Listing.Proofs.Paging.Numeral
import Listing.Proofs.Selection
import Listing.Proofs.Sql.RelatedRows

/-!
# Whole numbers in columns

The items of a list are compared with a column of whole numbers as the numbers that they are
numerals of.  All such columns share one reading, that of a signed word of 64 bits, though their
ranges differ. A number that a column can hold is therefore found by its numeral unless the column
is one of unsigned words and the number is none of a signed word (`Query.findsNumber_iff_fits`); its
item is then left out, and a list of such items alone finds nothing and leaves nothing out.
-/

namespace Listing

namespace Decimal

/-! ## Numerals -/

/-- A numeral of a whole number: decimal digits, at least one, with a sign in front or without
one. -/
def IsWhole (text : List Char) (n : Int) : Prop :=
  ∃ digits, digits ≠ [] ∧ (∀ c ∈ digits, c.isDigit) ∧
    ((text = digits ∨ text = '+' :: digits) ∧ n = valueOf digits ∨
      text = '-' :: digits ∧ n = -valueOf digits)

variable {text rest : List Char} {n : Int}

theorem isWhole_iff_natural? :
    IsWhole text n ↔ ∃ digits m, natural? digits = some m ∧
      ((text = digits ∨ text = '+' :: digits) ∧ n = m ∨ text = '-' :: digits ∧ n = -m) := by
  simp only [natural?_eq_some_iff]
  constructor
  · rintro ⟨digits, ne, allDigits, text_cases⟩
    exact ⟨digits, _, ⟨ne, allDigits, rfl⟩, text_cases⟩
  · rintro ⟨digits, _, ⟨ne, allDigits, rfl⟩, text_cases⟩
    exact ⟨digits, ne, allDigits, text_cases⟩

theorem natural?_cons_of_not_isDigit {c : Char} (c_eq : c.isDigit = false) :
    natural? (c :: rest) = none := by
  simp [natural?, c_eq]

theorem isWhole_plus_iff : IsWhole ('+' :: rest) n ↔ ∃ m : Nat, natural? rest = some m ∧ n = m := by
  rw [isWhole_iff_natural?]
  constructor
  · rintro ⟨digits, m, digits_eq, ⟨rfl | text_eq, n_eq⟩ | ⟨text_eq, _⟩⟩
    · rw [natural?_cons_of_not_isDigit rfl] at digits_eq
      cases digits_eq
    · obtain rfl := (List.cons.inj text_eq).2
      exact ⟨m, digits_eq, n_eq⟩
    · cases text_eq
  · rintro ⟨m, digits_eq, n_eq⟩
    exact ⟨rest, m, digits_eq, .inl ⟨.inr rfl, n_eq⟩⟩

theorem isWhole_minus_iff :
    IsWhole ('-' :: rest) n ↔ ∃ m : Nat, natural? rest = some m ∧ n = -m := by
  rw [isWhole_iff_natural?]
  constructor
  · rintro ⟨digits, m, digits_eq, ⟨rfl | text_eq, n_eq⟩ | ⟨text_eq, n_eq⟩⟩
    · rw [natural?_cons_of_not_isDigit rfl] at digits_eq
      cases digits_eq
    · cases text_eq
    · obtain rfl := (List.cons.inj text_eq).2
      exact ⟨m, digits_eq, n_eq⟩
  · rintro ⟨m, digits_eq, n_eq⟩
    exact ⟨rest, m, digits_eq, .inr ⟨rfl, n_eq⟩⟩

theorem isWhole_iff_of_unsigned (noPlus : ∀ rest, text ≠ '+' :: rest)
    (noMinus : ∀ rest, text ≠ '-' :: rest) :
    IsWhole text n ↔ ∃ m : Nat, natural? text = some m ∧ n = m := by
  rw [isWhole_iff_natural?]
  constructor
  · rintro ⟨digits, m, digits_eq, ⟨rfl | text_eq, n_eq⟩ | ⟨text_eq, _⟩⟩
    · exact ⟨m, digits_eq, n_eq⟩
    · exact absurd text_eq (noPlus digits)
    · exact absurd text_eq (noMinus digits)
  · rintro ⟨m, digits_eq, n_eq⟩
    exact ⟨text, m, digits_eq, .inl ⟨.inl rfl, n_eq⟩⟩

theorem isWhole_toString (n : Int) : IsWhole (toString n).toList n := by
  rw [isWhole_iff_natural?]
  cases n with
  | ofNat m => exact ⟨_, m, natural?_toString m, .inl ⟨.inl rfl, rfl⟩⟩
  | negSucc m =>
      have text_eq : (toString (Int.negSucc m)).toList = '-' :: (toString (m + 1)).toList :=
        String.toList_append
      exact ⟨_, m + 1, natural?_toString (m + 1), .inr ⟨text_eq, rfl⟩⟩

/-- A signed word is read from the numerals of the numbers that fit it and from nothing else. -/
theorem signed?_eq_some_iff :
    signed? text = some n ↔ IsWhole text n ∧ minSigned ≤ n ∧ n ≤ maxSigned := by
  simp only [signed?, Option.filter_eq_some_iff, Bool.and_eq_true, decide_eq_true_eq]
  apply and_congr_left
  intro _
  split
  · simp only [isWhole_plus_iff, Option.map_eq_some_iff, @eq_comm _ n]
    rfl
  · rw [isWhole_minus_iff]
    simp only [Option.map_eq_some_iff, Option.bind_eq_some_iff, bind, pure, Option.some.injEq,
      exists_exists_and_eq_and, @eq_comm _ n]
  · rename_i noPlus noMinus
    simp only [isWhole_iff_of_unsigned noPlus noMinus, Option.map_eq_some_iff, @eq_comm _ n]
    rfl

end Decimal

namespace Sql

/-! ## Columns -/

namespace ColumnKind

/-- The whole numbers that a column of a kind can hold. -/
def CanHold : ColumnKind → Int → Prop
  | tinyInteger, n => -128 ≤ n ∧ n ≤ 127
  | smallInteger, n => -32768 ≤ n ∧ n ≤ 32767
  | integer, n => -2147483648 ≤ n ∧ n ≤ 2147483647
  | bigInteger, n => -9223372036854775808 ≤ n ∧ n ≤ 9223372036854775807
  | tinyUnsigned, n => 0 ≤ n ∧ n ≤ 255
  | smallUnsigned, n => 0 ≤ n ∧ n ≤ 65535
  | unsigned, n => 0 ≤ n ∧ n ≤ 4294967295
  | bigUnsigned, n => 0 ≤ n ∧ n ≤ 18446744073709551615
  | _, _ => False

variable {kind : ColumnKind} {n : Int}

theorem CanHold.isWhole (holds : kind.CanHold n) : kind.isWhole := by
  cases kind with
  | float | double | decimal | money | boolean | text => cases holds
  | _ => rfl

/-- All that a column can hold fits a signed word, but for the large half of the unsigned words. -/
theorem CanHold.fits_iff (holds : kind.CanHold n) :
    (Decimal.minSigned ≤ n ∧ n ≤ Decimal.maxSigned) ↔
      (kind = .bigUnsigned → n ≤ Decimal.maxSigned) := by
  constructor
  · exact fun fits _ => fits.2
  · intro big_imp
    rw [Decimal.minSigned, Decimal.maxSigned]
    rw [Decimal.maxSigned] at big_imp
    cases kind with
    | float | double | decimal | money | boolean | text => cases holds
    | bigUnsigned =>
        have max := big_imp rfl
        simp only [CanHold] at holds
        omega
    | _ =>
        simp only [CanHold] at holds
        omega

/-- What an item of a list is bound as for a column of whole numbers: the number that it is a
numeral of, blanks around it left aside, if that fits a signed word. -/
def BindsWhole (item : String) (bound : Datum) : Prop :=
  ∃ n, Decimal.IsWhole (Text.trim item.toList) n ∧ Decimal.minSigned ≤ n ∧ n ≤ Decimal.maxSigned ∧
    bound = .bigInt n

theorem bind?_eq_some_iff_bindsWhole (whole : kind.isWhole) {item : String} {bound : Datum} :
    kind.bind? item = some bound ↔ BindsWhole item bound := by
  simp only [bind?, if_pos whole, Option.map_eq_some_iff, Decimal.signed?_eq_some_iff, BindsWhole,
    and_assoc, @eq_comm _ _ bound]

end ColumnKind

open ColumnKind (BindsWhole)

namespace Query

variable {query : Query} {column : Column} {items : List String} {n : Int}

/-! ## Lists -/

/-- The bound values of a list for a column of whole numbers are what its items are bound as. -/
theorem selection_bindAll (column_eq : query.entity.column? column.name = some column)
    (whole : column.kind.isWhole) :
    Selection BindsWhole items (query.bindAll column.name items) := by
  refine (selection_iff_filterMap_eq fun item bound => ?_).mpr rfl
  rw [Entity.bind?, column_eq]
  exact ColumnKind.bind?_eq_some_iff_bindsWhole whole

/-- A number is bound exactly if it fits a signed word and some item is a numeral of it. -/
theorem mem_bindAll_iff (column_eq : query.entity.column? column.name = some column)
    (whole : column.kind.isWhole) :
    .bigInt n ∈ query.bindAll column.name items ↔
      (∃ item ∈ items, Decimal.IsWhole (Text.trim item.toList) n) ∧
        Decimal.minSigned ≤ n ∧ n ≤ Decimal.maxSigned := by
  simp only [bindAll, List.mem_filterMap, Entity.bind?, column_eq,
    ColumnKind.bind?_eq_some_iff_bindsWhole whole, BindsWhole, Datum.bigInt.injEq]
  constructor
  · rintro ⟨item, item_mem, _, isWhole, least, greatest, rfl⟩
    exact ⟨⟨item, item_mem, isWhole⟩, least, greatest⟩
  · rintro ⟨⟨item, item_mem, isWhole⟩, least, greatest⟩
    exact ⟨item, item_mem, n, isWhole, least, greatest, rfl⟩

/-- In every database a row that holds a number in a column meets the condition for one of the items
and does not meet that for none of them. -/
structure FindsNumber (query : Query) (field : String) (items : List String) (n : Int) : Prop where
  isIn : ∀ {V : Type} (store : Store V) (row : TableRow V),
    row field = some (store.value (.bigInt n)) →
      (Condition.isIn (query.column field) (query.bindAll field items)).Holds store
        [query.outerFrame row]
  notIn : ∀ {V : Type} (store : Store V) (row : TableRow V),
    row field = some (store.value (.bigInt n)) →
      ¬(Condition.notIn (query.column field) (query.bindAll field items)).Holds store
        [query.outerFrame row]

/-- The rows that hold a number are found exactly if the number is bound. -/
theorem findsNumber_iff_mem {field : String} :
    query.FindsNumber field items n ↔ .bigInt n ∈ query.bindAll field items := by
  have allCell : ∀ {V : Type} (row : TableRow V),
      (query.column field).cell? [query.outerFrame row] = row field :=
    fun row => ColumnRef.cell?_innermost query.entity.table field row []
  constructor
  · intro finds
    -- a database that tells all bound values apart, and a row of it with nothing but the number
    obtain ⟨bound, bound_mem, equal_eq⟩ :=
      finds.isIn (twoRows (.bigInt n)) (fun _ => some (some (.bigInt n))) rfl
    rw [allCell] at equal_eq
    rwa [Option.some.inj (Option.some.inj equal_eq)]
  · intro mem
    constructor
    · intro V store row row_eq
      exact ⟨_, mem, (allCell row).trans row_eq⟩
    · rintro V store row row_eq (empty | ⟨v, v_eq, never⟩)
      · rw [empty] at mem
        cases mem
      · rw [allCell, row_eq] at v_eq
        exact never _ mem (Option.some.inj v_eq).symm

/-- Both conditions on a list for a column of whole numbers compare the column with the numbers that
the items are numerals of, in the order of the items, and with nothing else.  A number that the
column can hold, and of which an item is a numeral, is among them, and the rows that hold it are
found, exactly if the column is none of the largest unsigned words or the number fits a signed
word. -/
theorem findsNumber_iff_fits (column_eq : query.entity.column? column.name = some column)
    (holds : column.kind.CanHold n) {item : String} (item_mem : item ∈ items)
    (isWhole : Decimal.IsWhole (Text.trim item.toList) n) :
    query.perform (.isIn column.name items) =
        .ok (query.keep (.isIn (query.column column.name) (query.bindAll column.name items))) ∧
      query.perform (.notIn column.name items) =
        .ok (query.keep (.notIn (query.column column.name) (query.bindAll column.name items))) ∧
      Selection BindsWhole items (query.bindAll column.name items) ∧
      (.bigInt n ∈ query.bindAll column.name items ↔
        (column.kind = .bigUnsigned → n ≤ Decimal.maxSigned)) ∧
      (query.FindsNumber column.name items n ↔
        (column.kind = .bigUnsigned → n ≤ Decimal.maxSigned)) := by
  have mem : .bigInt n ∈ query.bindAll column.name items ↔
      (column.kind = .bigUnsigned → n ≤ Decimal.maxSigned) := by
    rw [mem_bindAll_iff column_eq holds.isWhole, holds.fits_iff]
    exact and_iff_right ⟨item, item_mem, isWhole⟩
  exact ⟨rfl, rfl, selection_bindAll column_eq holds.isWhole, mem, findsNumber_iff_mem.trans mem⟩

/-- The smallest number of a column of small words is found by its numeral among other items. -/
theorem findsNumber_gauges_tiny :
    let gauges := Catalogue.Gauges.query ⟨.mysql, .ok none, .ok []⟩
    let items := ["x", " -128 ", "1.5", "+7"]
    ColumnKind.tinyInteger.CanHold (-128) ∧
      Decimal.IsWhole (Text.trim " -128 ".toList) (-128) ∧
      gauges.bindAll "tiny" items = [.bigInt (-128), .bigInt 7] ∧
      gauges.FindsNumber "tiny" items (-128) := by
  intro gauges items
  let tiny : Column := { name := "tiny", field := "tiny", kind := .tinyInteger }
  have column_eq : gauges.entity.column? tiny.name = some tiny := rfl
  have holds : tiny.kind.CanHold (-128) := by
    change (-128 : Int) ≤ -128 ∧ (-128 : Int) ≤ 127
    decide
  have isWhole : Decimal.IsWhole (Text.trim " -128 ".toList) (-128) := by
    have trim_eq : Text.trim " -128 ".toList = (toString (-128 : Int)).toList := by decide +kernel
    rw [trim_eq]
    exact Decimal.isWhole_toString _
  have item_mem : " -128 " ∈ items := by simp [items]
  obtain ⟨_, _, _, _, finds⟩ := findsNumber_iff_fits column_eq holds item_mem isWhole
  exact ⟨holds, isWhole, rfl, finds.mpr nofun⟩

/-- The largest number of a column of unsigned words is left out of a list.  With nothing else in
the list no row is found, be it one that holds the number, and every row counts as one that does
not. -/
theorem not_findsNumber_gauges_big :
    let gauges := Catalogue.Gauges.query ⟨.mysql, .ok none, .ok []⟩
    let items := ["18446744073709551615"]
    ColumnKind.bigUnsigned.CanHold 18446744073709551615 ∧
      Decimal.IsWhole (Text.trim "18446744073709551615".toList) 18446744073709551615 ∧
      ¬gauges.FindsNumber "big_u" items 18446744073709551615 ∧
      ∀ {V : Type} (store : Store V) (row : TableRow V),
        ¬(Condition.isIn (gauges.column "big_u") (gauges.bindAll "big_u" items)).Holds store
            [gauges.outerFrame row] ∧
          (Condition.notIn (gauges.column "big_u") (gauges.bindAll "big_u" items)).Holds store
            [gauges.outerFrame row] := by
  intro gauges items
  have eq_none : gauges.bindAll "big_u" items = [] := rfl
  refine ⟨?_, ?_, ?_, fun store row => ?_⟩
  · change (0 : Int) ≤ 18446744073709551615 ∧ (18446744073709551615 : Int) ≤ 18446744073709551615
    decide
  · have trim_eq : Text.trim "18446744073709551615".toList =
        (toString (18446744073709551615 : Int)).toList := by decide +kernel
    rw [trim_eq]
    exact Decimal.isWhole_toString _
  · rw [findsNumber_iff_mem, eq_none]
    exact List.not_mem_nil
  · rw [eq_none]
    exact ⟨fun ⟨_, mem, _⟩ => List.not_mem_nil mem, .inl rfl⟩

end Query

end Sql

end Listing
