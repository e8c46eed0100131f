import Listing.Request
import Mathlib.Data.List.TakeWhile

/-!
# Numbers of rows in a request

The limit and the offset of a request are the last values given for their names, if these are
numerals: digits, with a plus sign in front or without one, and blanks around them.
`Paging.readRows?_eq_some_iff` says so of the reading functions, and `Pairs.AsksLimit` and
`Pairs.AsksOffset` say it of the pairs of a request.
-/

namespace Listing

open Bindings (IsLast)

namespace Decimal

/-! ## Numerals -/

/-- A numeral of an unsigned word: decimal digits, at least one, with or without a plus sign in
front, of a number that fits the word. -/
def IsUnsigned (text : List Char) (n : Nat) : Prop :=
  ∃ digits, (text = digits ∨ text = '+' :: digits) ∧ digits ≠ [] ∧ (∀ c ∈ digits, c.isDigit) ∧
    valueOf digits = n ∧ n ≤ maxUnsigned

theorem natural?_eq_some_iff {text : List Char} {n : Nat} :
    natural? text = some n ↔ text ≠ [] ∧ (∀ c ∈ text, c.isDigit) ∧ valueOf text = n := by
  simp only [natural?, Option.ite_none_left_eq_some, Option.some.injEq, Bool.or_eq_true,
    Bool.not_eq_true', List.isEmpty_iff, List.all_eq_false, not_or, not_exists, not_and, not_not,
    and_assoc, ne_eq]

theorem natural?_toString (n : Nat) : natural? (toString n).toList = some n := by
  rw [natural?_eq_some_iff]
  refine ⟨?_, fun c c_mem => isDigit_of_mem_toString c_mem, ?_⟩
  · rw [Nat.toString_eq_repr, Nat.toList_repr]
    exact Nat.toDigits_ne_nil
  · rw [Nat.toString_eq_repr, Nat.toList_repr]
    exact Nat.ofDigitChars_toDigits (by decide) (by decide)

/-- An unsigned word is read from its numerals and from nothing else. -/
theorem unsigned?_eq_some_iff {text : List Char} {n : Nat} :
    unsigned? text = some n ↔ IsUnsigned text n := by
  simp only [unsigned?, Option.filter_eq_some_iff, natural?_eq_some_iff, decide_eq_true_eq]
  split
  · rename_i rest
    constructor
    · rintro ⟨⟨ne, allDigits, value_eq⟩, fits⟩
      exact ⟨rest, .inr rfl, ne, allDigits, value_eq, fits⟩
    · rintro ⟨digits, text_eq | text_eq, ne, allDigits, value_eq, fits⟩
      · subst text_eq
        exact absurd (allDigits '+' List.mem_cons_self) (by decide)
      · obtain rfl := (List.cons.inj text_eq).2
        exact ⟨⟨ne, allDigits, value_eq⟩, fits⟩
  · rename_i noPlus
    constructor
    · rintro ⟨⟨ne, allDigits, value_eq⟩, fits⟩
      exact ⟨text, .inl rfl, ne, allDigits, value_eq, fits⟩
    · rintro ⟨digits, rfl | text_eq, ne, allDigits, value_eq, fits⟩
      · exact ⟨⟨ne, allDigits, value_eq⟩, fits⟩
      · exact absurd text_eq (noPlus digits)

end Decimal

namespace Text

/-! ## Blanks -/

/-- A text that is another one with blanks around it. -/
def Padded (text core : List Char) : Prop :=
  ∃ before after, text = before ++ core ++ after ∧ (∀ c ∈ before, isBlank c) ∧
    ∀ c ∈ after, isBlank c

theorem padded_trim (text : List Char) : Padded text (trim text) := by
  refine ⟨text.takeWhile isBlank, ((trimStart text).reverse.takeWhile isBlank).reverse, ?_, ?_, ?_⟩
  · have end_eq : trimEnd (trimStart text) ++ ((trimStart text).reverse.takeWhile isBlank).reverse =
        trimStart text := by
      rw [trimEnd, ← List.reverse_append, List.takeWhile_append_dropWhile, List.reverse_reverse]
    rw [trim, List.append_assoc, end_eq, trimStart, List.takeWhile_append_dropWhile]
  · exact fun c c_mem => List.mem_takeWhile_imp c_mem
  · exact fun c c_mem => List.mem_takeWhile_imp (List.mem_reverse.mp c_mem)

/-- A text without blanks is what remains of every text that has it between blanks. -/
theorem Padded.trim_eq {text core : List Char} (padded : Padded text core)
    (allCore : ∀ c ∈ core, isBlank c = false) (ne : core ≠ []) : trim text = core := by
  obtain ⟨before, after, rfl, allBefore, allAfter⟩ := padded
  obtain ⟨first, rest, rfl⟩ := List.exists_cons_of_ne_nil ne
  have first_false : isBlank first = false := allCore first List.mem_cons_self
  have start_eq : trimStart (before ++ (first :: rest) ++ after) = (first :: rest) ++ after := by
    rw [trimStart, List.append_assoc, List.dropWhile_append_of_pos allBefore, List.cons_append,
      List.dropWhile_cons_of_neg (by simp [first_false])]
  have end_eq : trimEnd ((first :: rest) ++ after) = trimEnd (first :: rest) := by
    rw [trimEnd, List.reverse_append,
      List.dropWhile_append_of_pos fun c c_mem => allAfter c (List.mem_reverse.mp c_mem), trimEnd]
  have self_eq : trimStart (first :: rest) = first :: rest :=
    List.dropWhile_cons_of_neg (by simp [first_false])
  calc trim (before ++ (first :: rest) ++ after)
    _ = trimEnd (first :: rest) := by rw [trim, start_eq, end_eq]
    _ = trim (first :: rest) := by rw [trim, self_eq]
    _ = first :: rest := trim_eq_self allCore

theorem isBlank_of_isDigit {c : Char} (digit : c.isDigit) : isBlank c = false := by
  simp only [Char.isDigit, Bool.and_eq_true, decide_eq_true_eq, ge_iff_le, UInt32.le_iff_toNat_le]
    at digit
  have low : 48 ≤ c.toNat := digit.1
  have high : c.toNat ≤ 57 := digit.2
  grind [isBlank, blankRanges, inRanges]

end Text

namespace Decimal

/-- The characters of a numeral are no blanks, and there is at least one. -/
theorem IsUnsigned.isBlank_eq_false {text : List Char} {n : Nat} (isUnsigned : IsUnsigned text n) :
    text ≠ [] ∧ ∀ c ∈ text, Text.isBlank c = false := by
  obtain ⟨digits, rfl | rfl, ne, allDigits, _⟩ := isUnsigned
  · exact ⟨ne, fun c c_mem => Text.isBlank_of_isDigit (allDigits c c_mem)⟩
  · refine ⟨List.cons_ne_nil _ _, fun c c_mem => ?_⟩
    rcases List.mem_cons.mp c_mem with rfl | c_mem
    · decide
    · exact Text.isBlank_of_isDigit (allDigits c c_mem)

end Decimal

namespace Paging

/-! ## Values -/

/-- A value that names a number of rows: a numeral, with or without blanks around it. -/
def NamesRows (raw : String) (rows : Nat) : Prop :=
  ∃ numeral, Text.Padded raw.toList numeral ∧ Decimal.IsUnsigned numeral rows

/-- A number of rows is read from the values that name it and from no others. -/
theorem readRows?_eq_some_iff {raw : String} {rows : Nat} :
    readRows? raw = some rows ↔ NamesRows raw rows := by
  rw [readRows?, Decimal.unsigned?_eq_some_iff]
  constructor
  · intro isUnsigned
    exact ⟨_, Text.padded_trim _, isUnsigned⟩
  · rintro ⟨numeral, padded, isUnsigned⟩
    obtain ⟨ne, blank⟩ := isUnsigned.isBlank_eq_false
    rwa [padded.trim_eq blank ne]

end Paging

namespace Pairs

/-! ## Requests -/

/-- The last value that the pairs give for the limit names a positive number of rows. -/
def AsksLimit (pairs : Pairs) (rows : Nat) : Prop :=
  ∃ raw, IsLast Paging.limitName raw pairs ∧ Paging.NamesRows raw rows ∧ 0 < rows

/-- The last value that the pairs give for the offset names a number of rows. -/
def AsksOffset (pairs : Pairs) (rows : Nat) : Prop :=
  ∃ raw, IsLast Paging.offsetName raw pairs ∧ Paging.NamesRows raw rows

end Pairs

namespace Paging

theorem limit_ofPairs_eq_some_iff {pairs : Pairs} {rows : Nat} :
    (ofPairs pairs).limit = some rows ↔ pairs.AsksLimit rows := by
  simp only [ofPairs, Pairs.input?, Option.filter_eq_some_iff, Option.bind_eq_some_iff,
    Bindings.last?_eq_some_iff, readRows?_eq_some_iff, decide_eq_true_eq, Pairs.AsksLimit]
  constructor
  · rintro ⟨⟨raw, isLast, namesRows⟩, positive⟩
    exact ⟨raw, isLast, namesRows, positive⟩
  · rintro ⟨raw, isLast, namesRows, positive⟩
    exact ⟨⟨raw, isLast, namesRows⟩, positive⟩

theorem offset_ofPairs_eq_some_iff {pairs : Pairs} {rows : Nat} :
    (ofPairs pairs).offset = some rows ↔ pairs.AsksOffset rows := by
  simp only [ofPairs, Pairs.input?, Option.bind_eq_some_iff, Bindings.last?_eq_some_iff,
    readRows?_eq_some_iff, Pairs.AsksOffset]

theorem limit_ofPairs_eq_none_iff {pairs : Pairs} :
    (ofPairs pairs).limit = none ↔ ∀ rows, ¬pairs.AsksLimit rows := by
  simp only [Option.eq_none_iff_forall_ne_some, ne_eq, limit_ofPairs_eq_some_iff]

end Paging

end Listing
