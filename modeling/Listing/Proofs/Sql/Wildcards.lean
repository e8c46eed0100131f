import Listing.Catalogue.Books
import Listing.Proofs.Effects

/-!
# Wildcards in start patterns

To a store a percent sign in a pattern stands for any characters and an underscore for exactly one;
all else stands for itself, and there is no way to take a wildcard literally.  The start operator
puts its value into the pattern as it came, so that wildcards in the value are at work, too.  Its
pattern always finds the texts that start with the value, and it finds no others exactly if the
value holds no wildcard (`Sql.Query.findsStarts_iff`).
-/

namespace Listing.Sql

namespace Wildcard

/-- The characters of patterns that do not stand for themselves. -/
def isWildcard (c : Char) : Bool :=
  c == '%' || c == '_'

/-- A pattern matches the whole of a text. -/
inductive Matches : List Char → List Char → Prop
  | nil : Matches [] []
  | percent (before : List Char) {rest behind : List Char} (rest_holds : Matches rest behind) :
      Matches ('%' :: rest) (before ++ behind)
  | underscore (c : Char) {rest behind : List Char} (rest_holds : Matches rest behind) :
      Matches ('_' :: rest) (c :: behind)
  | plain {c : Char} {rest behind : List Char} (plain_false : isWildcard c = false)
      (rest_holds : Matches rest behind) :
      Matches (c :: rest) (c :: behind)

variable {pattern text : List Char}

theorem Matches.cons (c : Char) (matched : Matches pattern text) :
    Matches (c :: pattern) (c :: text) := by
  by_cases percent_eq : c = '%'
  · subst percent_eq
    exact .percent ['%'] matched
  · by_cases underscore_eq : c = '_'
    · subst underscore_eq
      exact .underscore '_' matched
    · exact .plain (by simp [isWildcard, percent_eq, underscore_eq]) matched

theorem matches_self (text : List Char) : Matches text text := by
  induction text with
  | nil => exact .nil
  | cons c text ih => exact ih.cons c

theorem Matches.eq_of_plain (matched : Matches pattern text)
    (allPlain : ∀ c ∈ pattern, isWildcard c = false) : text = pattern := by
  induction matched with
  | nil => rfl
  | percent | underscore => exact absurd (allPlain _ List.mem_cons_self) (by decide)
  | plain _ _ ih =>
      rw [ih fun c c_mem => allPlain c (List.mem_cons_of_mem _ c_mem)]

/-- A percent sign at the end stands for all that follows a match of the pattern before it. -/
theorem matches_concat_percent_iff :
    Matches (pattern ++ ['%']) text ↔
      ∃ start behind, text = start ++ behind ∧ Matches pattern start := by
  constructor
  · intro matched
    induction pattern generalizing text with
    | nil =>
        cases matched with
        | percent before restMatches =>
            cases restMatches
            exact ⟨[], before, (List.append_nil before), .nil⟩
        | plain plain_false => exact absurd plain_false (by decide)
    | cons c pattern ih =>
        cases matched with
        | percent before restMatches =>
            rcases ih restMatches with ⟨start, behind, rfl, startMatches⟩
            exact ⟨before ++ start, behind, (List.append_assoc ..).symm,
              .percent before startMatches⟩
        | underscore d restMatches =>
            rcases ih restMatches with ⟨start, behind, rfl, startMatches⟩
            exact ⟨d :: start, behind, rfl, .underscore d startMatches⟩
        | plain plain_false restMatches =>
            rcases ih restMatches with ⟨start, behind, rfl, startMatches⟩
            exact ⟨c :: start, behind, rfl, .plain plain_false startMatches⟩
  · rintro ⟨start, behind, rfl, startMatches⟩
    induction startMatches with
    | nil => exact List.append_nil behind ▸ .percent behind .nil
    | percent before _ ih => exact List.append_assoc .. ▸ .percent before ih
    | underscore c _ ih => exact .underscore c ih
    | plain plain_false _ ih => exact .plain plain_false ih

/-! ## A text that only wildcards find -/

/-- The pattern with a letter in the place of every wildcard. -/
def filled (pattern : List Char) : List Char :=
  pattern.map fun c => if isWildcard c then 'x' else c

theorem matches_filled (pattern : List Char) : Matches pattern (filled pattern) := by
  induction pattern with
  | nil => exact .nil
  | cons c pattern ih =>
      cases wildcard_eq : isWildcard c with
      | false =>
          simp only [filled, List.map_cons, wildcard_eq]
          exact .plain wildcard_eq ih
      | true =>
          simp only [filled, List.map_cons, wildcard_eq]
          rcases Bool.or_eq_true_iff.mp wildcard_eq with percent | underscore
          · obtain rfl := beq_iff_eq.mp percent
            exact .percent ['x'] ih
          · obtain rfl := beq_iff_eq.mp underscore
            exact .underscore 'x' ih

/-- The letters are in the way of a pattern that is taken literally. -/
theorem not_prefix_filled {c : Char} (c_mem : c ∈ pattern) (wildcard : isWildcard c = true) :
    ¬pattern <+: filled pattern := by
  intro starts
  have length_eq : pattern.length = (filled pattern).length := by simp [filled]
  have pattern_eq : pattern = filled pattern := starts.eq_of_length length_eq
  rw [pattern_eq] at c_mem
  rcases List.mem_map.mp c_mem with ⟨d, _, rfl⟩
  cases d_eq : isWildcard d with
  | true =>
      rw [d_eq, if_pos rfl] at wildcard
      exact absurd wildcard (by decide)
  | false =>
      rw [d_eq, if_neg Bool.false_ne_true, d_eq] at wildcard
      cases wildcard

end Wildcard

namespace Query

open Wildcard (Matches)

/-- A pattern matches exactly the texts that start with a value. -/
def FindsStarts (pattern raw : String) : Prop :=
  ∀ text : List Char, Matches pattern.toList text ↔ raw.toList <+: text

/-- The pattern of a value matches the texts with a start that the value itself matches. -/
theorem matches_startPattern_iff {raw : String} {text : List Char} :
    Matches (Param.startPattern raw).toList text ↔
      ∃ start behind, text = start ++ behind ∧ Matches raw.toList start := by
  rw [Param.startPattern, String.toList_ofList, Param.wildcard]
  exact Wildcard.matches_concat_percent_iff

theorem matches_startPattern_of_starts {raw : String} {text : List Char}
    (starts : raw.toList <+: text) : Matches (Param.startPattern raw).toList text := by
  rcases starts with ⟨behind, rfl⟩
  exact matches_startPattern_iff.mpr ⟨_, behind, rfl, Wildcard.matches_self _⟩

/-- It matches the texts that start with the value and no others exactly if the value holds no
wildcard. -/
theorem findsStarts_startPattern_iff {raw : String} :
    FindsStarts (Param.startPattern raw) raw ↔ '%' ∉ raw.toList ∧ '_' ∉ raw.toList := by
  have plain : '%' ∉ raw.toList ∧ '_' ∉ raw.toList ↔
      ∀ c ∈ raw.toList, Wildcard.isWildcard c = false := by
    simp only [Wildcard.isWildcard, Bool.or_eq_false_iff, beq_eq_false_iff_ne, ne_eq]
    constructor
    · rintro ⟨noPercent, noUnderscore⟩ c c_mem
      exact ⟨fun c_eq => noPercent (c_eq ▸ c_mem), fun c_eq => noUnderscore (c_eq ▸ c_mem)⟩
    · exact fun all => ⟨fun c_eq => (all _ c_eq).1 rfl, fun c_eq => (all _ c_eq).2 rfl⟩
  rw [plain]
  constructor
  · intro finds c c_mem
    cases wildcard_eq : Wildcard.isWildcard c with
    | false => rfl
    | true =>
        have filledMatches := matches_startPattern_iff.mpr
          ⟨_, [], (List.append_nil _).symm, Wildcard.matches_filled raw.toList⟩
        exact absurd ((finds _).mp filledMatches) (Wildcard.not_prefix_filled c_mem wildcard_eq)
  · intro all text
    refine ⟨fun matched => ?_, matches_startPattern_of_starts⟩
    rcases matches_startPattern_iff.mp matched with ⟨start, behind, rfl, startMatches⟩
    rw [startMatches.eq_of_plain all]
    exact List.prefix_append ..

/-- The condition of a pattern call is one on the column of the field, and the pattern is all that
it binds. -/
theorem exists_condition_like (query : Query) (field pattern : String) (matching : LikeOperator) :
    ∃ condition ∈
      [Condition.like (query.column field) pattern, .ilike (query.column field) pattern],
      (Source.attempt query (.like field pattern matching)).select.conditions =
        query.select.conditions ++ [condition] ∧
      ∀ dialect alone, Fragment.valuesOf (condition.fragments dialect alone) = [.text pattern] := by
  cases matching with
  | like => exact ⟨_, List.mem_cons_self, rfl, fun dialect alone => rfl⟩
  | ilike =>
      refine ⟨_, List.mem_cons_of_mem _ List.mem_cons_self, rfl, fun dialect alone => ?_⟩
      cases alone <;> rfl

/-- With a built-in start operator on a listed field, a value without a blank is kept as a parameter
that makes one pattern call on the field, and the pattern is what a query on a table binds.  It is
matched by every text that starts with the value, and all in all by the texts with a start that the
value matches as a pattern itself.  So it finds the texts that start with the value and no others
exactly if the value holds neither a percent sign nor an underscore. -/
theorem findsStarts_iff {policy : Policy} {name raw field : String} {secondary : Option String}
    (offers : policy.Offers name ⟨.startsWith, field, secondary⟩) (isValue : Param.IsValue raw)
    (blank : ' ' ∉ raw.toList) (matching : LikeOperator) (query : Query) :
    ∃ param pattern, policy.keep? (name, raw) = some param ∧
      param.calls? matching = some [.like field pattern matching] ∧
      (∃ condition ∈
          [Condition.like (query.column field) pattern, .ilike (query.column field) pattern],
        (Source.attempt query (.like field pattern matching)).select.conditions =
          query.select.conditions ++ [condition] ∧
        ∀ dialect alone,
          Fragment.valuesOf (condition.fragments dialect alone) = [.text pattern]) ∧
      (∀ text, Matches pattern.toList text ↔
        ∃ start behind, text = start ++ behind ∧ Matches raw.toList start) ∧
      (∀ text, raw.toList <+: text → Matches pattern.toList text) ∧
      (FindsStarts pattern raw ↔ '%' ∉ raw.toList ∧ '_' ∉ raw.toList) := by
  have normal : Param.normalize .startsWith raw = some (.text (Param.startPattern raw)) := by
    rw [Param.normalize, if_neg blank]
  exact ⟨_, _, (policy.keep?_eq_some_iff_admits _ _).mpr (offers.admits isValue normal),
    Param.calls?_ofKey isValue normal (.startsWith _), query.exists_condition_like field _ matching,
    fun _ => matches_startPattern_iff, fun _ => matches_startPattern_of_starts,
    findsStarts_startPattern_iff⟩

/-- A word without wildcards finds the titles of the table of books that start with it. -/
theorem findsStarts_books_rust :
    ∃ param pattern, Catalogue.Books.tablePolicy.keep? ("start_with_title", "Rust") = some param ∧
      param.calls? .like = some [.like "title" pattern .like] ∧ FindsStarts pattern "Rust" := by
  have offers :
      Catalogue.Books.tablePolicy.Offers "start_with_title" ⟨.startsWith, "title", none⟩ :=
    { reads := by decide +kernel
      operator_ne := by decide
      builtIn := fun _ => List.not_mem_nil
      lists := .field rfl rfl (List.mem_singleton_self _) }
  have isValue : Param.IsValue "Rust" := ⟨by decide, by decide⟩
  have blank : ' ' ∉ "Rust".toList := by decide
  rcases findsStarts_iff offers isValue blank .like
    (Catalogue.Books.query ⟨.sqlite, .ok none, .ok []⟩) with
    ⟨param, pattern, kept, calls_eq, _, _, _, finds⟩
  exact ⟨param, pattern, kept, calls_eq, finds.mpr (by decide)⟩

/-- A percent sign in a value is at work: the pattern finds a title that holds the parts around it
and does not start with the value. -/
theorem not_findsStarts_percent :
    Request.pairs ⟨some "start_with_title=R%25A"⟩ = [("start_with_title", "R%A")] ∧
      ∃ param pattern, Catalogue.Books.tablePolicy.keep? ("start_with_title", "R%A") = some param ∧
        param.calls? .like = some [.like "title" pattern .like] ∧
        Matches pattern.toList "Rust Atomics".toList ∧ ¬"R%A".toList <+: "Rust Atomics".toList ∧
        ¬FindsStarts pattern "R%A" := by
  have matched : Matches "R%A%".toList "Rust Atomics".toList :=
    .plain (by decide) (.percent "ust ".toList (.plain (by decide) (.percent "tomics".toList .nil)))
  have starts : ¬"R%A".toList <+: "Rust Atomics".toList := by decide
  refine ⟨by decide +kernel, _, "R%A%", rfl, rfl, matched, starts, ?_⟩
  exact fun finds => starts ((finds _).mp matched)

end Query

end Listing.Sql
