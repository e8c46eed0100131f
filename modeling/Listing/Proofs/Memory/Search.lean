import Listing.Proofs.Effects
import Listing.Proofs.Insertion
import Listing.Proofs.Memory.Patterns

/-!
# Searching rows held in memory

A search parameter keeps the rows whose field holds the pieces of the value in order, and a start
parameter those whose field starts with the first piece and holds the others behind it.  A field
that is missing or null holds nothing, not even no pieces at all.
-/

namespace Listing

namespace Memory.Row

variable {row : Row} {field : String} {wanted : List Char → Prop}

/-- The field is present and not null, and its text is as wanted. -/
def TextIs (row : Row) (field : String) (wanted : List Char → Prop) : Prop :=
  ∃ value text, row.lookup field = some value ∧ value ≠ .null ∧ text? (some value) = some text ∧
    wanted text.toList

theorem textIs_iff :
    row.TextIs field wanted ↔ ∃ text ∈ row.fieldText? field, wanted text.toList := by
  constructor
  · rintro ⟨value, text, value_eq, _, text_eq, wanted_holds⟩
    exact ⟨text, by rw [fieldText?, value_eq, text_eq]; rfl, wanted_holds⟩
  · rintro ⟨text, text_eq, wanted_holds⟩
    rw [Option.mem_def, fieldText?] at text_eq
    cases value_eq : row.lookup field with
    | none => rw [value_eq] at text_eq; cases text_eq
    | some value =>
        rw [value_eq] at text_eq
        refine ⟨value, text, value_eq, ?_, text_eq, wanted_holds⟩
        rintro rfl
        cases text_eq

theorem textIs_congr {other : List Char → Prop} (allWanted : ∀ text, wanted text ↔ other text) :
    row.TextIs field wanted ↔ row.TextIs field other := by
  simp only [TextIs, allWanted]

instance [DecidablePred wanted] (row : Row) (field : String) :
    Decidable (row.TextIs field wanted) :=
  decidable_of_iff _ textIs_iff.symm

/-- A row meets a pattern on a field if the pattern accepts the text of the field. -/
theorem meets_like_iff {pattern : String}
    (allPattern : ∀ text, Pattern.accepts pattern.toList text = true ↔ wanted text)
    (scopes : List (String × String)) (matching : LikeOperator) :
    row.meets scopes (.like field pattern matching) = true ↔ row.TextIs field wanted := by
  rw [textIs_iff, meets]
  cases row.fieldText? field with
  | none => simp
  | some text => simp [allPattern]

end Memory.Row

namespace Engine

open Memory.Pattern (InOrder StartsInOrder searchPieces)

variable {policy : Policy} {request otherRequest : Request} {before after : Pairs}
  {name raw field : String} {secondary : Option String} {operator : Operator}

/-- A parameter that looks for a pattern in a field keeps the rows whose field is accepted by it. -/
theorem matching_built_like {pattern : String} {wanted : List Char → Prop} [DecidablePred wanted]
    (parsed : Key.parse? name = some ⟨operator, field, secondary⟩)
    (operator_cases : operator = .search ∨ operator = .startsWith)
    (allBuiltIn : ∀ run, ((operator, Registry.token field), run) ∉ policy.registry.overrides)
    (listsLists : policy.Lists operator field secondary) (isValue : Param.IsValue raw)
    (request_eq : request.pairs = before ++ after)
    (otherRequest_eq : otherRequest.pairs = before ++ (name, raw) :: after)
    (normal : Param.normalize operator raw = some (.text pattern))
    (allPattern : ∀ text, Memory.Pattern.accepts pattern.toList text = true ↔ wanted text)
    {additions : List Addition} {config : Config} {query listed : Memory.Query}
    (listed_eq : built policy additions config query request = .ok listed) :
    ∃ found, built policy additions config query otherRequest = .ok found ∧
      found.matching = listed.matching.filter fun row => decide (row.TextIs field wanted) := by
  have offers : policy.Offers name ⟨operator, field, secondary⟩ :=
    { reads := parsed
      operator_ne := by rcases operator_cases with rfl | rfl <;> simp
      builtIn := allBuiltIn
      lists := listsLists }
  have notSort : operator ≠ .sort := by rcases operator_cases with rfl | rfl <;> simp
  have allMakes : ∀ secondary, Param.Makes config.likeOperator field operator secondary
      (.text pattern) [.like field pattern config.likeOperator] := by
    intro secondary
    rcases operator_cases with rfl | rfl
    · exact .search pattern
    · exact .startsWith pattern
  have pairs_perm : otherRequest.pairs.Perm ((name, raw) :: request.pairs) := by
    rw [otherRequest_eq, request_eq]
    exact List.perm_middle
  exact matching_built_single offers notSort isValue normal (allMakes _)
    (fun row => Memory.Row.meets_like_iff allPattern query.scopes config.likeOperator)
    pairs_perm listed_eq

/-- A start parameter with a blank in its value is kept as no parameter. -/
theorem not_admits_blank (parsed : Key.parse? name = some ⟨.startsWith, field, secondary⟩)
    (builtIn : ∀ run, ((.startsWith, Registry.token field), run) ∉ policy.registry.overrides)
    (blank : ' ' ∈ raw.toList) (param : Param) : ¬policy.Admits (name, raw) param := by
  intro admits
  cases admits with
  | custom _ key_eq operator_eq =>
      cases parsed.symm.trans key_eq
      cases operator_eq
  | override _ key_eq _ registered =>
      cases parsed.symm.trans key_eq
      exact builtIn _ registered.mem
  | listed _ key_eq _ _ accepts =>
      cases parsed.symm.trans key_eq
      exact accepts blank

/-- Over rows held in memory, with a built-in operator on a listed field and a value: a search
parameter keeps exactly the rows whose field is present, not null and has a text that holds the
pieces of the value between blanks and percent signs, in order and without overlap.  A start
parameter is dropped if its value holds a blank.  Otherwise it keeps exactly the rows whose field is
present, not null and has a text that starts with the first piece of the value between percent signs
and holds the others in order behind it; these are the texts that start with the value if it holds
no percent sign. -/
theorem patterns_keep
    (parsed : Key.parse? name = some ⟨operator, field, secondary⟩)
    (builtIn : ∀ run, ((operator, Registry.token field), run) ∉ policy.registry.overrides)
    (lists : policy.Lists operator field secondary) (isValue : Param.IsValue raw)
    (request_eq : request.pairs = before ++ after)
    (otherRequest_eq : otherRequest.pairs = before ++ (name, raw) :: after)
    (additions : List Addition) (config : Config) (query listed : Memory.Query)
    (listed_eq : built policy additions config query request = .ok listed) :
    (operator = .search →
      ∃ found, built policy additions config query otherRequest = .ok found ∧
        found.matching = listed.matching.filter fun row =>
          decide (row.TextIs field (InOrder (searchPieces raw)))) ∧
      (operator = .startsWith → ' ' ∈ raw.toList →
        built policy additions config query otherRequest = .ok listed) ∧
      (operator = .startsWith → ' ' ∉ raw.toList →
        ∃ found, built policy additions config query otherRequest = .ok found ∧
          (found.matching = listed.matching.filter fun row =>
            decide (row.TextIs field (StartsInOrder (raw.toList.splitOn '%')))) ∧
          ('%' ∉ raw.toList → found.matching = listed.matching.filter fun row =>
            decide (row.TextIs field (raw.toList <+: ·)))) := by
  refine ⟨?_, ?_, ?_⟩
  · intro operator_eq
    have normal : Param.normalize operator raw = some (.text (Param.searchPattern raw)) := by
      rw [operator_eq, Param.normalize]
    exact matching_built_like parsed (.inl operator_eq) builtIn lists isValue request_eq
      otherRequest_eq
      normal (fun text => Memory.Pattern.accepts_searchPattern_iff raw) listed_eq
  · intro operator_eq blank
    rw [← listed_eq]
    exact built_insert request_eq otherRequest_eq (Key.not_mem_pageNames parsed)
      (not_admits_blank (operator_eq ▸ parsed) (operator_eq ▸ builtIn) blank) additions config query
  · intro operator_eq blank
    have normal : Param.normalize operator raw = some (.text (Param.startPattern raw)) := by
      rw [operator_eq, Param.normalize, if_neg blank]
    rcases matching_built_like parsed (.inr operator_eq) builtIn lists isValue request_eq
      otherRequest_eq
      normal (fun text => Memory.Pattern.accepts_startPattern_iff raw) listed_eq with
      ⟨found, found_eq, matching⟩
    refine ⟨found, found_eq, matching, fun noPercent => matching.trans ?_⟩
    apply List.filter_congr
    intro row _
    rw [decide_eq_decide]
    exact Memory.Row.textIs_congr fun text =>
      Memory.Pattern.startsInOrder_iff_of_not_mem noPercent

/-- The stored books, without scopes. -/
def storedBooks : Memory.Query :=
  .ofRows Catalogue.Books.stored

/-- A request for published books. -/
def listedRequest : Request :=
  ⟨some "where_status=published"⟩

theorem exists_built_listedRequest :
    ∃ listed, built Catalogue.Books.policy [] {} storedBooks listedRequest = .ok listed ∧
      listed.matching =
        Catalogue.Books.stored.filter fun row => row.hasText "status" ["published"] := by
  have pairs_eq : listedRequest.pairs = [("where_status", "published")] := by decide +kernel
  have made := ofRequest?_of_check Catalogue.Books.policy listedRequest rfl
  rw [pairs_eq] at made
  have listed_eq := built_of_engine made [] {} storedBooks
  rw [builder_eq] at listed_eq
  exact ⟨_, listed_eq, rfl⟩

/-- The same request for books with two pieces in their titles. -/
def titleRequest : Request :=
  ⟨some "search_title=in+t&where_status=published"⟩

theorem patterns_keep_books :
    ∃ listed found,
      built Catalogue.Books.policy [] {} storedBooks listedRequest = .ok listed ∧
        built Catalogue.Books.policy [] {} storedBooks titleRequest = .ok found ∧
        listed.matching.length = 3 ∧ found.matching = Catalogue.Books.stored.take 1 := by
  have pairs_eq : listedRequest.pairs = [] ++ [("where_status", "published")] := by
    decide +kernel
  have title_eq : titleRequest.pairs =
      [] ++ ("search_title", "in t") :: [("where_status", "published")] := by
    decide +kernel
  have parsed : Key.parse? "search_title" = some ⟨.search, "title", none⟩ := by decide +kernel
  have builtIn : ∀ run, ((.search, Registry.token "title"), run) ∉
      Catalogue.Books.policy.registry.overrides := by
    intro run registered
    have key_eq := List.mem_singleton.mp registered
    simp at key_eq
  have lists : Catalogue.Books.policy.Lists .search "title" none :=
    .field rfl rfl (List.mem_singleton_self _)
  have made := ofRequest?_of_check Catalogue.Books.policy listedRequest rfl
  rw [pairs_eq] at made
  have listed_eq := built_of_engine made [] {} storedBooks
  rw [builder_eq] at listed_eq
  rcases (patterns_keep parsed builtIn lists ⟨by decide, by decide⟩ pairs_eq title_eq [] {} _ _
    listed_eq).1 rfl with ⟨found, found_eq, matching⟩
  refine ⟨_, found, listed_eq, found_eq, ?_, matching.trans ?_⟩
  · rfl
  · rfl

end Engine

end Listing
