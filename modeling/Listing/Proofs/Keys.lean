import Listing.Proofs.Selection
import Listing.Proofs.Text.DoubledMark

/-!
# Reading keys

A key is read by the first operator of the list whose keyword and underscore start it.  The order of
the list makes that the longest such keyword (`Key.pairwise_beginning`), and what is read, written
again, is the text that was read.  Not every key can be read back from its text, since a field may
look like the rest of a longer keyword and fields and underscores run into each other.
`Key.IsUnambiguous` says which keys can; the others are read from no text at all.
-/

namespace Listing

namespace Operator

/-- What makes the beginning of the operator's keys into that of a longer keyword. -/
def extensions : Operator → List String
  | anyOf => ["has_", "not_"]
  | hasAny => ["all_"]
  | _ => []

theorem keyword_injective {operator other : Operator}
    (keyword_eq : operator.keyword = other.keyword) :
    operator = other := by
  have read_eq := ofKeyword?_keyword operator
  rw [keyword_eq, ofKeyword?_keyword] at read_eq
  exact (Option.some.inj read_eq).symm

end Operator

namespace Key

variable {operator other : Operator} {text : String} {rest : List Char} {key : Key}

/-! ## Operators -/

theorem beginning_injective (beginning_eq : beginning operator = beginning other) :
    operator = other :=
  Operator.keyword_injective (String.toList_injective (List.append_cancel_right beginning_eq))

/-- No keyword of the list is the start of a later one. -/
theorem pairwise_beginning :
    Operator.all.Pairwise fun first later => ¬beginning first <+: beginning later := by
  decide +kernel

/-- The operators with a longer keyword that starts in the same way are those of the extensions. -/
theorem extension_of_starts : ∀ operator ∈ Operator.all, ∀ other ∈ Operator.all,
    beginning operator <+: beginning other → operator = other ∨
      ∃ word ∈ operator.extensions, beginning operator ++ word.toList <+: beginning other := by
  decide +kernel

theorem exists_beginning_of_extension : ∀ operator ∈ Operator.all, ∀ word ∈ operator.extensions,
    ∃ other ∈ Operator.all, beginning other = beginning operator ++ word.toList := by
  decide +kernel

/-- A text that starts like the keys of an operator starts like those of a longer keyword exactly if
an extension follows. -/
theorem longest_iff_extensions :
    (∀ other, beginning other <+: beginning operator ++ rest →
        beginning other <+: beginning operator) ↔
      ∀ word ∈ operator.extensions, ¬word.toList <+: rest := by
  constructor
  · intro longest word word_mem restStarts
    obtain ⟨other, _, other_eq⟩ :=
      exists_beginning_of_extension operator operator.mem_all word word_mem
    have starts : beginning operator ++ word.toList <+: beginning operator := by
      rw [← other_eq]
      apply longest
      rw [other_eq]
      exact (List.prefix_append_right_inj _).mpr restStarts
    have empty : word = "" := by
      have length_le := starts.length_le
      rw [List.length_append] at length_le
      exact String.toList_eq_nil_iff.mp (List.eq_nil_of_length_eq_zero (by omega))
    subst empty
    revert word_mem
    cases operator <;> decide
  · intro allExtensions other otherStarts
    rcases List.prefix_or_prefix_of_prefix otherStarts (List.prefix_append _ rest) with short | long
    · exact short
    · rcases extension_of_starts operator operator.mem_all other other.mem_all long with
        rfl | ⟨word, word_mem, extended⟩
      · exact List.prefix_rfl
      · have restStarts : word.toList <+: rest :=
          (List.prefix_append_right_inj _).mp (extended.trans otherStarts)
        exact absurd restStarts (allExtensions word word_mem)

/-- The operator that reads a text has the longest keyword among those that start the text. -/
theorem exists_longest_of_parse? (parsed : parse? text = some key) :
    ∃ rest, text.toList = beginning key.operator ++ rest ∧
      (∀ other, beginning other <+: text.toList → beginning other <+: beginning key.operator) ∧
      ofRemainder key.operator rest = key := by
  obtain ⟨earlier, operator, later, all, operator_eq, allEarlier⟩ :=
    List.findSome?_eq_some_iff.mp parsed
  obtain ⟨rest, after_eq, rfl⟩ := Option.map_eq_some_iff.mp operator_eq
  have text_eq : text.toList = beginning operator ++ rest := Text.after?_eq_some_iff.mp after_eq
  rw [ofRemainder_operator]
  refine ⟨rest, text_eq, fun other otherStarts => ?_, rfl⟩
  have mem := other.mem_all
  have pairwise := pairwise_beginning
  rw [all] at mem pairwise
  rcases List.mem_append.mp mem with before_mem | origin_mem
  · obtain ⟨more, more_eq⟩ := otherStarts
    have eq_none := allEarlier other before_mem
    rw [Text.after?_eq_some_iff.mpr more_eq.symm] at eq_none
    cases eq_none
  · rcases List.mem_cons.mp origin_mem with rfl | later_mem
    · exact List.prefix_rfl
    · have notStarts : ¬beginning operator <+: beginning other :=
        (List.pairwise_cons.mp (List.pairwise_append.mp pairwise).2.1).1 other later_mem
      have compares := List.prefix_or_prefix_of_prefix otherStarts ⟨rest, text_eq.symm⟩
      exact compares.resolve_right notStarts

/-- A text is read by the operator with the longest keyword that starts it, and the key is made of
what follows. -/
theorem parse?_eq_some_iff :
    parse? text = some key ↔
      ∃ rest, text.toList = beginning key.operator ++ rest ∧
        (∀ other, beginning other <+: text.toList → beginning other <+: beginning key.operator) ∧
        ofRemainder key.operator rest = key := by
  constructor
  · exact exists_longest_of_parse?
  · rintro ⟨rest, text_eq, longest, key_eq⟩
    cases found_eq : parse? text with
    | none => exact absurd text_eq (parse?_eq_none_iff.mp found_eq _ _)
    | some found =>
        obtain ⟨more, more_eq, otherSimple, made_eq⟩ := exists_longest_of_parse? found_eq
        have beginning_eq : beginning found.operator = beginning key.operator :=
          (longest _ ⟨more, more_eq.symm⟩).eq_of_length
            ((longest _ ⟨more, more_eq.symm⟩).length_le.antisymm
              (otherSimple _ ⟨rest, text_eq.symm⟩).length_le)
        rw [text_eq, beginning_eq, List.append_cancel_left_eq] at more_eq
        rw [← made_eq, ← key_eq, more_eq, beginning_injective beginning_eq]

/-! ## Parts -/

/-- The field and the secondary field are the pieces of what they are written as.  Without a
secondary field the pieces of the field must not be two, which would count as field and secondary
field. -/
def PartsSeparate (key : Key) : Prop :=
  match key.secondary with
  | none => (Text.splitOnDouble delimiter key.field.toList).length ≠ 2
  | some secondary =>
      ¬[delimiter, delimiter] <:+: key.field.toList ∧ ¬[delimiter] <:+ key.field.toList ∧
        ¬[delimiter, delimiter] <:+: secondary.toList

instance (key : Key) : Decidable key.PartsSeparate :=
  match key with
  | ⟨_, field, none⟩ =>
      inferInstanceAs (Decidable ((Text.splitOnDouble delimiter field.toList).length ≠ 2))
  | ⟨_, field, some secondary⟩ =>
      inferInstanceAs (Decidable (¬[delimiter, delimiter] <:+: field.toList ∧
        ¬[delimiter] <:+ field.toList ∧ ¬[delimiter, delimiter] <:+: secondary.toList))

/-- A remainder with two pieces gives a field and a secondary field, and any other one is a
field. -/
theorem ofRemainder_eq_iff :
    ofRemainder operator rest = key ↔
      key.operator = operator ∧ key.remainder = rest ∧ key.PartsSeparate := by
  constructor
  · rintro rfl
    refine ⟨ofRemainder_operator .., ?_⟩
    rw [ofRemainder]
    split
    · rename_i first second pieces_eq
      obtain ⟨rest_eq, parts⟩ := Text.splitOnDouble_eq_pair_iff.mp pieces_eq
      simpa only [remainder, PartsSeparate, String.toList_ofList] using ⟨rest_eq.symm, parts⟩
    · rename_i notPair
      refine ⟨String.toList_ofList, fun length_eq => ?_⟩
      rw [String.toList_ofList] at length_eq
      obtain ⟨first, second, pair_eq⟩ := List.length_eq_two.mp length_eq
      exact notPair first second pair_eq
  · rcases key with ⟨keyOperator, field, secondary⟩
    rintro ⟨rfl, rfl, separate⟩
    cases secondary with
    | none =>
        rw [ofRemainder]
        split
        · rename_i first second pieces_eq
          exact absurd (congrArg List.length pieces_eq) separate
        · simp only [remainder, String.ofList_toList]
    | some secondary =>
        have pieces_eq :
            Text.splitOnDouble delimiter (remainder ⟨keyOperator, field, some secondary⟩) =
              [field.toList, secondary.toList] :=
          Text.splitOnDouble_eq_pair_iff.mpr ⟨rfl, separate⟩
        simp only [ofRemainder, pieces_eq, String.ofList_toList]

/-- Keys that can be read back from their text: no extension of the keyword starts what follows it,
and the parts are told apart. -/
structure IsUnambiguous (key : Key) : Prop where
  extension : ∀ word ∈ key.operator.extensions, ¬word.toList <+: key.remainder
  parts : key.PartsSeparate

instance (key : Key) : Decidable key.IsUnambiguous :=
  decidable_of_iff
    ((∀ word ∈ key.operator.extensions, ¬word.toList <+: key.remainder) ∧ key.PartsSeparate)
    ⟨fun ⟨extension, parts⟩ => ⟨extension, parts⟩, fun ⟨extension, parts⟩ => ⟨extension, parts⟩⟩

/-- What is read from a text is the unambiguous key that is written as the text. -/
theorem parse?_eq_some_iff_render :
    parse? text = some key ↔ text = key.render ∧ key.IsUnambiguous := by
  have render_iff : text = key.render ↔ text.toList = beginning key.operator ++ key.remainder := by
    rw [render, ← String.toList_inj, String.toList_ofList]
  rw [parse?_eq_some_iff, render_iff]
  constructor
  · rintro ⟨rest, text_eq, longest, key_eq⟩
    obtain ⟨_, rfl, partsSeparate⟩ := ofRemainder_eq_iff.mp key_eq
    rw [text_eq] at longest
    exact ⟨text_eq, longest_iff_extensions.mp longest, partsSeparate⟩
  · rintro ⟨text_eq, allExtension, partsSeparate⟩
    refine ⟨_, text_eq, ?_, ofRemainder_eq_iff.mpr ⟨rfl, rfl, partsSeparate⟩⟩
    rw [text_eq]
    exact longest_iff_extensions.mpr allExtension

/-- Of two keywords that start a text in this way the longest is longer than the other. -/
theorem length_lt_of_starts (starts : beginning other <+: beginning operator)
    (ne : other ≠ operator) : other.keyword.length < operator.keyword.length := by
  have shorter : (beginning other).length < (beginning operator).length := by
    refine starts.length_le.lt_of_ne fun length_eq => ne ?_
    exact beginning_injective (starts.eq_of_length length_eq)
  simpa only [beginning, List.length_append, String.length_toList, Nat.add_lt_add_iff_right]
    using shorter

/-- A text is no key exactly if no keyword and underscore start it.  Otherwise it is read by the
operator with the longest such keyword, and the parts of the key in their order are the text.  There
is a secondary field exactly if what follows the keyword and its underscore has two pieces, and then
no doubled underscore is left in the parts, nor could another one be put together at the end of the
field. -/
theorem parse?_longest (text : String) :
    (parse? text = none ↔ ∀ operator, ¬beginning operator <+: text.toList) ∧
    ∀ key, parse? text = some key →
      beginning key.operator <+: text.toList ∧
      (∀ other, beginning other <+: text.toList → other ≠ key.operator →
        other.keyword.length < key.operator.keyword.length) ∧
      text = key.render ∧
      (key.secondary.isSome ↔ (Text.splitOnDouble delimiter key.remainder).length = 2) ∧
      ∀ secondary, key.secondary = some secondary →
        ¬[delimiter, delimiter] <:+: key.field.toList ∧ ¬[delimiter] <:+ key.field.toList ∧
          ¬[delimiter, delimiter] <:+: secondary.toList := by
  constructor
  · rw [parse?_eq_none_iff]
    constructor
    · rintro never operator ⟨rest, rest_eq⟩
      exact never operator rest rest_eq.symm
    · intro never operator rest text_eq
      exact never operator ⟨rest, text_eq.symm⟩
  · intro key parsed
    obtain ⟨rest, text_eq, longest, _⟩ := parse?_eq_some_iff.mp parsed
    obtain ⟨render_eq, unambiguous⟩ := parse?_eq_some_iff_render.mp parsed
    have partsSeparate := unambiguous.parts
    refine ⟨⟨rest, text_eq.symm⟩, fun other otherStarts ne => ?_, render_eq, ?_, ?_⟩
    · exact length_lt_of_starts (longest other otherStarts) ne
    · rw [PartsSeparate] at partsSeparate
      rw [remainder]
      cases secondary_eq : key.secondary with
      | none => simpa [secondary_eq] using partsSeparate
      | some secondary =>
          rw [secondary_eq] at partsSeparate
          rw [Text.splitOnDouble_eq_pair_iff.mpr ⟨rfl, partsSeparate⟩]
          exact iff_of_true rfl rfl
    · intro secondary secondary_eq
      rwa [PartsSeparate, secondary_eq] at partsSeparate

/-- A key of related rows with a run of underscores, which a shorter keyword starts as well. -/
theorem parse?_longest_authors :
    parse? "where_has_all_authors___role" = some ⟨.hasAll, "authors", some "_role"⟩ ∧
      beginning .anyOf <+: "where_has_all_authors___role".toList ∧
      (Operator.keyword .anyOf).length < (Operator.keyword .hasAll).length ∧
      "where_has_all_authors___role" = render ⟨.hasAll, "authors", some "_role"⟩ := by
  have parsed : parse? "where_has_all_authors___role" =
      some ⟨.hasAll, "authors", some "_role"⟩ := by
    decide +kernel
  have shorter : beginning .anyOf <+: "where_has_all_authors___role".toList := by decide +kernel
  obtain ⟨_, longest, render_eq, _⟩ := (parse?_longest "where_has_all_authors___role").2 _ parsed
  exact ⟨parsed, shorter, longest .anyOf shorter (by decide), render_eq⟩

/-! ## Keys that cannot be written -/

/-- A field that can be read with a secondary field can be read without one. -/
theorem IsUnambiguous.withoutSecondary {field : String} {secondary : Option String}
    (isUnambiguous : IsUnambiguous ⟨operator, field, secondary⟩) :
    IsUnambiguous ⟨operator, field, none⟩ := by
  cases secondary with
  | none => exact isUnambiguous
  | some related =>
      obtain ⟨allExtension, notField, _, _⟩ := isUnambiguous
      constructor
      · intro word word_mem starts
        apply allExtension word word_mem
        simpa only [remainder, List.append_assoc] using starts.trans (List.prefix_append _ _)
      · simp [PartsSeparate, Text.splitOnDouble_of_plain notField]

end Key

/-- Some pair of a request is kept as a parameter that works on the field itself. -/
def Policy.Reaches (policy : Policy) (operator : Operator) (field : String)
    (secondary : Option String) : Prop :=
  ∃ name raw, policy.keep? (name, raw) = some ⟨operator, .field field, some raw, secondary⟩

theorem Policy.Reaches.exists_parse? {policy : Policy} {operator : Operator} {field : String}
    {secondary : Option String} (reaches : policy.Reaches operator field secondary) :
    ∃ name, Key.parse? name = some ⟨operator, field, secondary⟩ := by
  obtain ⟨name, raw, keep_eq⟩ := reaches
  cases (policy.keep?_eq_some_iff_admits ..).mp keep_eq with
  | listed _ parsed => exact ⟨name, parsed⟩

namespace Key

/-- A key is read back from its text exactly if it is unambiguous.  A field for which the key
without a secondary field is ambiguous is read from no text, be it with or without a secondary
field, and a relation with a field for which the key is ambiguous is not either; so no request
reaches them under any policy, whatever its whitelists list. -/
theorem parse?_render_iff (operator : Operator) (field : String) :
    (∀ secondary,
      parse? (render ⟨operator, field, secondary⟩) = some ⟨operator, field, secondary⟩ ↔
        IsUnambiguous ⟨operator, field, secondary⟩) ∧
    (¬IsUnambiguous ⟨operator, field, none⟩ →
      (∀ text secondary, parse? text ≠ some ⟨operator, field, secondary⟩) ∧
        ∀ (policy : Policy) secondary, ¬policy.Reaches operator field secondary) ∧
    ∀ related, ¬IsUnambiguous ⟨operator, field, some related⟩ →
      (∀ text, parse? text ≠ some ⟨operator, field, some related⟩) ∧
        ∀ policy : Policy, ¬policy.Reaches operator field (some related) := by
  have allRead : ∀ {text secondary}, parse? text = some ⟨operator, field, secondary⟩ →
      IsUnambiguous ⟨operator, field, secondary⟩ :=
    fun parsed => (parse?_eq_some_iff_render.mp parsed).2
  have reached : ∀ {policy : Policy} {secondary}, policy.Reaches operator field secondary →
      IsUnambiguous ⟨operator, field, secondary⟩ := by
    intro policy secondary reaches
    obtain ⟨name, parsed⟩ := reaches.exists_parse?
    exact allRead parsed
  refine ⟨fun secondary => ?_, fun ambiguous => ⟨?_, ?_⟩, fun related ambiguous => ⟨?_, ?_⟩⟩
  · simp only [parse?_eq_some_iff_render, true_and]
  · intro text secondary parsed
    exact ambiguous (allRead parsed).withoutSecondary
  · intro policy secondary reaches
    exact ambiguous (reached reaches).withoutSecondary
  · intro text parsed
    exact ambiguous (allRead parsed)
  · intro policy reaches
    exact ambiguous (reached reaches)

/-- Fields and pairs that no request can name: a field that looks like the rest of a longer keyword,
a field with a doubled underscore, and a relation that ends in an underscore. -/
theorem parse?_render_iff_discounts :
    (¬IsUnambiguous ⟨.anyOf, "has_discount", none⟩ ∧
      ∀ policy : Policy, ∀ secondary, ¬policy.Reaches .anyOf "has_discount" secondary) ∧
    (¬IsUnambiguous ⟨.atLeast, "a__b", none⟩ ∧
      ∀ text secondary, parse? text ≠ some ⟨.atLeast, "a__b", secondary⟩) ∧
    ¬IsUnambiguous ⟨.hasAny, "authors_", some "role"⟩ ∧
      ∀ text, parse? text ≠ some ⟨.hasAny, "authors_", some "role"⟩ := by
  have notDiscount : ¬IsUnambiguous ⟨.anyOf, "has_discount", none⟩ := by decide +kernel
  have doubled : ¬IsUnambiguous ⟨.atLeast, "a__b", none⟩ := by decide +kernel
  have notAuthors : ¬IsUnambiguous ⟨.hasAny, "authors_", some "role"⟩ := by decide +kernel
  refine ⟨⟨notDiscount, ?_⟩, ⟨doubled, ?_⟩, notAuthors, ?_⟩
  · exact ((parse?_render_iff .anyOf "has_discount").2.1 notDiscount).2
  · exact ((parse?_render_iff .atLeast "a__b").2.1 doubled).1
  · exact ((parse?_render_iff .hasAny "authors_").2.2 "role" notAuthors).1

end Key

end Listing
