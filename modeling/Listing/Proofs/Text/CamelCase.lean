import Listing.Proofs.Text.SimpleCase
import Mathlib.Data.List.Chain

/-!
# Camel case applied again

A name in camel case is a name like any other, and its words are found by its capitals and digits
alone.  The seam between two words is seen there if a capital follows a small letter or a digit, or
if a capital follows a capital and stands before a small letter; words of a single letter may not
meet this.  For names of simple characters `camelCase_camelCase_iff` says exactly when camel case
leaves camel case alone: when every seam shows.
-/

namespace Listing.Text.CamelCase

open LetterCase (lower upper)

variable {text rest : List (List Char)} {previous : Option (List Char)} {word : List (List Char)}

/-! ## Words -/

/-- The words of a text of simple characters.  Inside a word no letter meets a digit, and no capital
follows a small letter. -/
structure IsWord (word : List (List Char)) : Prop where
  nonempty : word ≠ []
  simple : ∀ cluster ∈ word, IsSimple cluster
  no_separator : ∀ cluster ∈ word, isSeparator cluster = false
  unchanged : word.IsChain fun left right => changes left right = false

/-- Words are made of what has been read and of the rest without its separators. -/
theorem mem_of_mem_wordsFrom {found : List (List Char)} {cluster : List Char}
    (found_mem : found ∈ wordsFrom previous word rest) (cluster_mem : cluster ∈ found) :
    cluster ∈ word ∨ cluster ∈ rest ∧ isSeparator cluster = false := by
  fun_induction wordsFrom previous word rest with
  | case1 previous word =>
      rw [List.mem_singleton.mp found_mem, List.mem_reverse] at cluster_mem
      exact .inl cluster_mem
  | case2 previous word separator rest _ ih =>
      rcases List.mem_cons.mp found_mem with rfl | later_mem
      · exact .inl (List.mem_reverse.mp cluster_mem)
      · rcases ih later_mem with nil_mem | ⟨rest_mem, plain⟩
        · cases nil_mem
        · exact .inr ⟨List.mem_cons_of_mem separator rest_mem, plain⟩
  | case3 previous word initial rest separator_ne _ ih =>
      rcases List.mem_cons.mp found_mem with rfl | later_mem
      · exact .inl (List.mem_reverse.mp cluster_mem)
      · rcases ih later_mem with initial_mem | ⟨rest_mem, plain⟩
        · rw [List.mem_singleton.mp initial_mem]
          exact .inr ⟨List.mem_cons_self, by simpa using separator_ne⟩
        · exact .inr ⟨List.mem_cons_of_mem initial rest_mem, plain⟩
  | case4 previous word next rest separator_ne _ ih =>
      rcases ih found_mem with word_mem | ⟨rest_mem, plain⟩
      · rcases List.mem_cons.mp word_mem with rfl | word_mem
        · exact .inr ⟨List.mem_cons_self, by simpa using separator_ne⟩
        · exact .inl word_mem
      · exact .inr ⟨List.mem_cons_of_mem next rest_mem, plain⟩

theorem changes_of_not_startsWord {left right : List Char} {next : Option (List Char)}
    (inside_ne : ¬startsWord (some left) right next = true) : changes left right = false := by
  cases next with
  | none => simpa [startsWord] using inside_ne
  | some following =>
      simp only [startsWord, Bool.or_eq_true, not_or, Bool.not_eq_true] at inside_ne
      exact inside_ne.1

theorem isChain_of_mem_wordsFrom (allLast : ∀ cluster ∈ word.head?, previous = some cluster)
    (isChain : word.IsChain fun right left => changes left right = false) :
    ∀ found ∈ wordsFrom previous word rest,
      found.IsChain fun left right => changes left right = false := by
  fun_induction wordsFrom previous word rest with
  | case1 previous word =>
      rw [List.forall_mem_singleton]
      exact List.isChain_reverse.mpr isChain
  | case2 previous word separator rest _ ih =>
      rw [List.forall_mem_cons]
      exact ⟨List.isChain_reverse.mpr isChain, ih (by simp) List.isChain_nil⟩
  | case3 previous word initial rest _ _ ih =>
      rw [List.forall_mem_cons]
      exact ⟨List.isChain_reverse.mpr isChain, ih (by simp) (List.isChain_singleton initial)⟩
  | case4 previous word next rest _ inside_ne ih =>
      apply ih (by simp)
      apply isChain.cons
      intro left left_mem
      rw [allLast left left_mem] at inside_ne
      exact changes_of_not_startsWord inside_ne

theorem isWord_of_mem_words {name : List Char} (allSimple : ∀ c ∈ name, IsSimple [c]) :
    ∀ found ∈ words name, IsWord found := by
  intro found found_mem
  have clusters_eq : Grapheme.clusters name = name.map fun c => [c] :=
    Grapheme.clusters_of_standsAlone fun c c_mem =>
      (allSimple c c_mem).standsAlone c (List.mem_singleton_self c)
  rcases List.mem_filter.mp found_mem with ⟨origin_mem, nonempty⟩
  have allParts : ∀ cluster ∈ found,
      cluster ∈ Grapheme.clusters name ∧ isSeparator cluster = false := by
    intro cluster cluster_mem
    exact (mem_of_mem_wordsFrom origin_mem cluster_mem).resolve_left List.not_mem_nil
  refine ⟨by simpa using nonempty, ?_, fun cluster cluster_mem => (allParts cluster cluster_mem).2,
    ?_⟩
  · intro cluster cluster_mem
    have mem := (allParts cluster cluster_mem).1
    rw [clusters_eq] at mem
    rcases List.mem_map.mp mem with ⟨c, c_mem, rfl⟩
    exact allSimple c c_mem
  · exact isChain_of_mem_wordsFrom (by simp) List.isChain_nil found origin_mem

/-! ## Spelling -/

/-- The clusters of a word in camel case: all in small letters if it is the first word, and
otherwise the first of them in capitals. -/
def spellWord : Bool → List (List Char) → List (List Char)
  | _, [] => []
  | opening, cluster :: rest => (if opening then lower cluster else upper cluster) :: rest.map lower

/-- The clusters of words that are run together. -/
def spelled : Bool → List (List (List Char)) → List (List Char)
  | _, [] => []
  | opening, word :: rest => spellWord opening word ++ spelled false rest

theorem spellWord_true (word : List (List Char)) : spellWord true word = word.map lower := by
  cases word <;> rfl

theorem spellWord_concat (word_ne : word ≠ []) (opening : Bool) (cluster : List Char) :
    spellWord opening (word ++ [cluster]) = spellWord opening word ++ [lower cluster] := by
  cases word with
  | nil => exact absurd rfl word_ne
  | cons initial rest => simp [spellWord]

theorem exists_of_mem_spellWord {opening : Bool} {cluster : List Char}
    (cluster_mem : cluster ∈ spellWord opening word) :
    ∃ other ∈ word, cluster = lower other ∨ cluster = upper other := by
  cases word with
  | nil => cases cluster_mem
  | cons initial rest =>
      rcases List.mem_cons.mp cluster_mem with rfl | rest_mem
      · exact ⟨initial, List.mem_cons_self, by cases opening <;> simp⟩
      · rcases List.mem_map.mp rest_mem with ⟨other, other_mem, rfl⟩
        exact ⟨other, List.mem_cons_of_mem initial other_mem, .inl rfl⟩

theorem exists_of_mem_spelled {opening : Bool} {words : List (List (List Char))}
    {cluster : List Char} (cluster_mem : cluster ∈ spelled opening words) :
    ∃ word ∈ words, ∃ other ∈ word, cluster = lower other ∨ cluster = upper other := by
  induction words generalizing opening with
  | nil => cases cluster_mem
  | cons word rest ih =>
      rcases List.mem_append.mp cluster_mem with first_mem | later_mem
      · exact ⟨word, List.mem_cons_self, exists_of_mem_spellWord first_mem⟩
      · rcases ih later_mem with ⟨next, next_mem, mem⟩
        exact ⟨next, List.mem_cons_of_mem word next_mem, mem⟩

theorem capitalize_eq (allSimple : ∀ cluster ∈ word, IsSimple cluster) :
    capitalize word = (spellWord false word).flatten := by
  cases word with
  | nil => rfl
  | cons initial rest =>
      have noSigma : ∀ cluster ∈ rest, 'Σ' ∉ cluster := fun cluster cluster_mem =>
        (allSimple cluster (List.mem_cons_of_mem initial cluster_mem)).not_mem_sigma
      rw [capitalize, LetterCase.lower_flatten noSigma, spellWord, List.flatten_cons,
        if_neg Bool.false_ne_true]

theorem flatMap_capitalize_eq {words : List (List (List Char))}
    (allWords : ∀ word ∈ words, ∀ cluster ∈ word, IsSimple cluster) :
    words.flatMap capitalize = (spelled false words).flatten := by
  induction words with
  | nil => rfl
  | cons word rest ih =>
      rcases List.forall_mem_cons.mp allWords with ⟨allSimple, allRest⟩
      rw [List.flatMap_cons, capitalize_eq allSimple, ih allRest, spelled, List.flatten_append]

theorem ofWords_eq {words : List (List (List Char))}
    (allWords : ∀ word ∈ words, ∀ cluster ∈ word, IsSimple cluster) :
    ofWords words = (spelled true words).flatten := by
  cases words with
  | nil => rfl
  | cons word rest =>
      rcases List.forall_mem_cons.mp allWords with ⟨allSimple, allRest⟩
      have noSigma : ∀ cluster ∈ word, 'Σ' ∉ cluster := fun cluster cluster_mem =>
        (allSimple cluster cluster_mem).not_mem_sigma
      rw [ofWords, LetterCase.lower_flatten noSigma, flatMap_capitalize_eq allRest, spelled,
        spellWord_true, List.flatten_append]

theorem isSimple_of_mem_spelled {opening : Bool} {words : List (List (List Char))}
    (allWords : ∀ word ∈ words, IsWord word) :
    ∀ cluster ∈ spelled opening words, IsSimple cluster := by
  intro cluster cluster_mem
  rcases exists_of_mem_spelled cluster_mem with ⟨word, word_mem, other, other_mem, rfl | rfl⟩
  · exact ((allWords word word_mem).simple other other_mem).lower
  · exact ((allWords word word_mem).simple other other_mem).upper

theorem not_isSeparator_of_mem_spelled {opening : Bool} {words : List (List (List Char))}
    (allWords : ∀ word ∈ words, IsWord word) :
    ∀ cluster ∈ spelled opening words, isSeparator cluster = false := by
  intro cluster cluster_mem
  rcases exists_of_mem_spelled cluster_mem with ⟨word, word_mem, other, other_mem, rfl | rfl⟩
  · rw [((allWords word word_mem).simple other other_mem).isSeparator_lower]
    exact (allWords word word_mem).no_separator other other_mem
  · rw [((allWords word word_mem).simple other other_mem).isSeparator_upper]
    exact (allWords word word_mem).no_separator other other_mem

/-! ## Respelling -/

/-- A text with capitals at the starts of its words and small letters elsewhere. -/
def respell : Option (List Char) → List (List Char) → List (List Char)
  | _, [] => []
  | previous, cluster :: rest =>
      (if startsWord previous cluster rest.head? then upper cluster else lower cluster) ::
        respell (some cluster) rest

/-- Without separators, a word that is being read comes first, and behind it the words are spelled
in their places. -/
theorem spelled_wordsFrom {opening : Bool} (word_ne : word ≠ [])
    (plain : ∀ cluster ∈ rest, isSeparator cluster = false) :
    spelled opening (wordsFrom previous word rest) =
      spellWord opening word.reverse ++ respell previous rest := by
  fun_induction wordsFrom previous word rest generalizing opening with
  | case1 previous word => simp [spelled, respell]
  | case2 previous word separator rest separator_true ih =>
      rw [plain separator List.mem_cons_self] at separator_true
      cases separator_true
  | case3 previous word initial rest _ starts ih =>
      rw [spelled, ih (List.cons_ne_nil _ _) (List.forall_mem_cons.mp plain).2, respell,
        if_pos starts]
      rfl
  | case4 previous word next rest _ inside_ne ih =>
      rw [ih (List.cons_ne_nil _ _) (List.forall_mem_cons.mp plain).2, respell, if_neg inside_ne,
        List.reverse_cons, spellWord_concat (by simpa using word_ne), List.append_assoc]
      rfl

theorem ne_nil_of_mem_wordsFrom (word_ne : word ≠ [])
    (plain : ∀ cluster ∈ rest, isSeparator cluster = false) :
    ∀ found ∈ wordsFrom previous word rest, found ≠ [] := by
  fun_induction wordsFrom previous word rest with
  | case1 previous word => simpa using word_ne
  | case2 previous word separator rest separator_true ih =>
      rw [plain separator List.mem_cons_self] at separator_true
      cases separator_true
  | case3 previous word initial rest _ _ ih =>
      rw [List.forall_mem_cons]
      exact ⟨by simpa using word_ne, ih (List.cons_ne_nil _ _) (List.forall_mem_cons.mp plain).2⟩
  | case4 previous word next rest _ _ ih =>
      exact ih (List.cons_ne_nil _ _) (List.forall_mem_cons.mp plain).2

theorem spelled_wordsFrom_none (plain : ∀ cluster ∈ text, isSeparator cluster = false) :
    spelled true ((wordsFrom none [] text).filter (!·.isEmpty)) = respell none text := by
  cases text with
  | nil => rfl
  | cons initial rest =>
      rcases List.forall_mem_cons.mp plain with ⟨initial_false, allRest⟩
      have words_eq :
          wordsFrom none [] (initial :: rest) = wordsFrom (some initial) [initial] rest := by
        rw [wordsFrom, initial_false, if_neg Bool.false_ne_true, startsWord,
          if_neg Bool.false_ne_true]
      have nonempty : (wordsFrom none [] (initial :: rest)).filter (!·.isEmpty) =
          wordsFrom none [] (initial :: rest) := by
        rw [List.filter_eq_self, words_eq]
        intro found found_mem
        simpa using ne_nil_of_mem_wordsFrom (List.cons_ne_nil _ _) allRest found found_mem
      rw [nonempty, words_eq, spelled_wordsFrom (List.cons_ne_nil _ _) allRest, respell, startsWord,
        if_neg Bool.false_ne_true]
      rfl

/-! ## Seams -/

/-- Whether the start of a word is seen when it is capitalized behind another word, which is the
first of all or is capitalized itself. -/
def seamShows (opening : Bool) (word next : List (List Char)) : Bool :=
  !next.head?.any hasCase || word.getLast?.any isDigit ||
    (word.getLast?.any hasCase &&
      (opening || decide (2 ≤ word.length) || next[1]?.any hasCase))

/-- Whether all seams between words are seen. -/
def seamsShow : Bool → List (List (List Char)) → Bool
  | _, [] | _, [_] => true
  | opening, word :: next :: rest => seamShows opening word next && seamsShow false (next :: rest)

/-- Only a first word and a word of several clusters end in small letters. -/
theorem getLast?_spellWord {final : List Char} (final_eq : word.getLast? = some final)
    (opening : Bool) :
    (spellWord opening word).getLast? =
      some (if opening || decide (2 ≤ word.length) then lower final else upper final) := by
  rcases word with _ | ⟨initial, _ | ⟨second, rest⟩⟩
  · cases final_eq
  · cases final_eq
    simp [spellWord]
  · rw [List.getLast?_cons_cons] at final_eq
    have map_eq : ((second :: rest).map lower).getLast? = some (lower final) := by
      rw [List.getLast?_map, final_eq, Option.map_some]
    simpa [spellWord] using map_eq

theorem startsWord_some (left cluster : List Char) (next : Option (List Char)) :
    startsWord (some left) cluster next =
      (changes left cluster || next.any (endsAcronym left cluster)) := by
  cases next <;> simp [startsWord]

/-- A word starts at a capital if a small letter or a digit stands before it, or a capital before it
and a small letter behind it. -/
theorem startsWord_upper {initial left : List Char} (isSimple : IsSimple initial)
    (cased : hasCase initial = true) (next : Option (List Char)) :
    startsWord (some left) (upper initial) next =
      (isLower left || isDigit left || (isUpper left && next.any isLower)) := by
  have digit_false : isDigit (upper initial) = false := by
    rw [isSimple.isDigit_upper]
    exact isSimple.isDigit_of_hasCase cased
  have changes_eq : changes left (upper initial) = (isLower left || isDigit left) := by
    simp [changes, isSimple.isUpper_upper, isSimple.isLower_upper, cased, digit_false]
  have acronym_eq :
      next.any (endsAcronym left (upper initial)) = (isUpper left && next.any isLower) := by
    cases next <;> simp [endsAcronym, isSimple.isUpper_upper, cased]
  rw [startsWord_some, changes_eq, acronym_eq]

/-- Behind a spelled word a capital starts a word exactly if the seam shows. -/
theorem startsWord_spellWord {opening : Bool} {initial : List Char}
    {tail after : List (List Char)} (isWord : IsWord word)
    (nextSimple : ∀ cluster ∈ initial :: tail, IsSimple cluster)
    (cased : hasCase initial = true) (after_false : after.head?.any isLower = false) :
    startsWord (spellWord opening word).getLast? (upper initial) (tail.map lower ++ after).head? =
      seamShows opening word (initial :: tail) := by
  rcases List.forall_mem_cons.mp nextSimple with ⟨initialIsSimple, allTail⟩
  have behind : (tail.map lower ++ after).head?.any isLower = tail.head?.any hasCase := by
    cases tail with
    | nil => exact after_false
    | cons second tail => simpa using (allTail second List.mem_cons_self).isLower_lower
  rcases Option.isSome_iff_exists.mp (List.getLast?_isSome.mpr isWord.nonempty) with
    ⟨final, final_eq⟩
  have simple : IsSimple final := isWord.simple final (List.mem_of_getLast? final_eq)
  rw [getLast?_spellWord final_eq, startsWord_upper initialIsSimple cased, behind, seamShows,
    final_eq]
  cases long : opening || decide (2 ≤ word.length) with
  | true =>
      simp [cased, simple.isLower_lower, simple.isUpper_lower, simple.isDigit_lower,
        Bool.or_comm]
  | false =>
      cases tail <;>
        simp [cased, simple.isLower_upper, simple.isUpper_upper, simple.isDigit_upper]

theorem changes_lower {left right spelling : List Char} (leftIsSimple : IsSimple left)
    (rightIsSimple : IsSimple right)
    (spelling_cases : spelling = lower left ∨ spelling = upper left)
    (same : changes left right = false) : changes spelling (lower right) = false := by
  have kinds : isDigit spelling = isDigit left ∧ hasCase spelling = hasCase left := by
    rcases spelling_cases with rfl | rfl
    · exact ⟨leftIsSimple.isDigit_lower, leftIsSimple.hasCase_lower⟩
    · exact ⟨leftIsSimple.isDigit_upper, leftIsSimple.hasCase_upper⟩
  have case_eq : (isUpper spelling || isLower spelling) = hasCase spelling := by
    rcases spelling_cases with rfl | rfl
    · exact leftIsSimple.lower.isUpper_or_isLower
    · exact leftIsSimple.upper.isUpper_or_isLower
  rw [changes, rightIsSimple.isUpper_or_isLower, leftIsSimple.isUpper_or_isLower] at same
  rw [changes, rightIsSimple.lower.isUpper_or_isLower, case_eq, rightIsSimple.isUpper_lower,
    rightIsSimple.hasCase_lower, rightIsSimple.isDigit_lower, kinds.1, kinds.2]
  simp only [Bool.or_eq_false_iff] at same
  simp [same]

theorem respell_map_lower {left spelling : List Char}
    (allSimple : ∀ cluster ∈ left :: word, IsSimple cluster)
    (spelling_cases : spelling = lower left ∨ spelling = upper left)
    (isChain : (left :: word).IsChain fun left right => changes left right = false)
    (after : List (List Char)) :
    respell (some spelling) (word.map lower ++ after) =
      word.map lower ++ respell (spelling :: word.map lower).getLast? after := by
  induction word generalizing left spelling with
  | nil => rfl
  | cons right word ih =>
      rcases List.forall_mem_cons.mp allSimple with ⟨leftIsSimple, eachWord⟩
      have rightIsSimple : IsSimple right := eachWord right List.mem_cons_self
      rcases List.isChain_cons_cons.mp isChain with ⟨same, isChain⟩
      have inside_false : startsWord (some spelling) (lower right) (word.map lower ++ after).head? =
          false := by
        rw [startsWord_some, changes_lower leftIsSimple rightIsSimple spelling_cases same]
        cases (word.map lower ++ after).head? <;> simp [endsAcronym, rightIsSimple.isUpper_lower]
      rw [List.map_cons, List.cons_append, respell, inside_false, if_neg Bool.false_ne_true,
        rightIsSimple.lower_lower, ih eachWord (.inl rfl) isChain, List.getLast?_cons_cons]
      rfl

theorem head?_spelled_false {following : List (List (List Char))}
    (allFollowing : ∀ next ∈ following, IsWord next) :
    (spelled false following).head?.any isLower = false := by
  rcases following with _ | ⟨_ | ⟨initial, tail⟩, following⟩
  · rfl
  · exact absurd rfl (allFollowing [] List.mem_cons_self).nonempty
  · have isSimple := (allFollowing _ List.mem_cons_self).simple initial List.mem_cons_self
    simpa [spelled, spellWord] using isSimple.isLower_upper

/-- What is capitalized behind a spelled word is respelled as it was exactly if the seam shows. -/
theorem respelled_initial_iff {opening : Bool} {initial : List Char}
    {tail after : List (List Char)} (isWord : IsWord word)
    (nextSimple : ∀ cluster ∈ initial :: tail, IsSimple cluster)
    (after_false : after.head?.any isLower = false) :
    (if startsWord (spellWord opening word).getLast? (upper initial)
          (tail.map lower ++ after).head? then
        upper (upper initial) else lower (upper initial)) = upper initial ↔
      seamShows opening word (initial :: tail) = true := by
  have isSimple : IsSimple initial := nextSimple initial List.mem_cons_self
  rw [isSimple.upper_upper, isSimple.lower_upper]
  cases case_eq : hasCase initial with
  | false =>
      rw [(isSimple.forms_eq case_eq).1, (isSimple.forms_eq case_eq).2, ite_self]
      simp [seamShows, case_eq]
  | true =>
      have forms_ne : lower initial ≠ upper initial := by
        intro forms_eq
        rw [hasCase, forms_eq, bne_self_eq_false] at case_eq
        cases case_eq
      rw [startsWord_spellWord isWord nextSimple case_eq after_false]
      simp [forms_ne]

/-- The words that follow a word are respelled as they were exactly if the seams show. -/
theorem respell_spelled_false_iff (opening : Bool) {following : List (List (List Char))}
    (isWord : IsWord word) (allFollowing : ∀ next ∈ following, IsWord next) :
    respell (spellWord opening word).getLast? (spelled false following) = spelled false following ↔
      seamsShow opening (word :: following) = true := by
  induction following generalizing opening word with
  | nil => simp [spelled, respell, seamsShow]
  | cons next following ih =>
      rcases List.forall_mem_cons.mp allFollowing with ⟨nextIsWord, allRest⟩
      rcases next with _ | ⟨initial, tail⟩
      · exact absurd rfl nextIsWord.nonempty
      · have tail_eq := respell_map_lower nextIsWord.simple (.inr rfl) nextIsWord.unchanged
          (spelled false following)
        rw [spelled, spellWord, if_neg Bool.false_ne_true, List.cons_append, respell, tail_eq,
          List.cons.injEq, List.append_cancel_left_eq, seamsShow, Bool.and_eq_true]
        exact and_congr
          (respelled_initial_iff isWord nextIsWord.simple (head?_spelled_false allRest))
          (ih false nextIsWord allRest)

/-- Words are respelled as they were spelled exactly if the seams show. -/
theorem respell_spelled_iff {words : List (List (List Char))}
    (allWords : ∀ word ∈ words, IsWord word) :
    respell none (spelled true words) = spelled true words ↔ seamsShow true words = true := by
  rcases words with _ | ⟨_ | ⟨initial, tail⟩, following⟩
  · simp [spelled, respell, seamsShow]
  · exact absurd rfl (allWords [] List.mem_cons_self).nonempty
  · rcases List.forall_mem_cons.mp allWords with ⟨isWord, allFollowing⟩
    have isSimple : IsSimple initial := isWord.simple initial List.mem_cons_self
    have tail_eq := respell_map_lower isWord.simple (.inl rfl) isWord.unchanged
      (spelled false following)
    rw [spelled, spellWord, if_pos rfl, List.cons_append, respell, startsWord,
      if_neg Bool.false_ne_true, isSimple.lower_lower, tail_eq, List.cons.injEq,
      List.append_cancel_left_eq]
    exact (and_iff_right rfl).trans (respell_spelled_false_iff true isWord allFollowing)

/-! ## Names -/

theorem clusters_flatten (allSimple : ∀ cluster ∈ text, IsSimple cluster) :
    Grapheme.clusters text.flatten = text := by
  have alone : ∀ c ∈ text.flatten, Grapheme.StandsAlone c := by
    intro c c_mem
    rcases List.mem_flatten.mp c_mem with ⟨cluster, cluster_mem, mem⟩
    exact (allSimple cluster cluster_mem).standsAlone c mem
  rw [Grapheme.clusters_of_standsAlone alone]
  clear alone
  induction text with
  | nil => rfl
  | cons cluster text ih =>
      rcases List.forall_mem_cons.mp allSimple with ⟨isSimple, allRest⟩
      rcases isSimple.exists_eq_singleton with ⟨c, rfl⟩
      rw [List.flatten_cons, List.singleton_append, List.map_cons, ih allRest]

theorem flatten_inj {other : List (List Char)} (allSimple : ∀ cluster ∈ text, IsSimple cluster)
    (otherSimple : ∀ cluster ∈ other, IsSimple cluster) :
    text.flatten = other.flatten ↔ text = other := by
  constructor
  · intro flatten_eq
    rw [← clusters_flatten allSimple, ← clusters_flatten otherSimple, flatten_eq]
  · exact congrArg List.flatten

/-- The words of words that are run together are found by respelling them. -/
theorem spelled_words_flatten {words : List (List (List Char))}
    (allWords : ∀ word ∈ words, IsWord word) :
    spelled true (CamelCase.words (spelled true words).flatten) =
      respell none (spelled true words) := by
  rw [CamelCase.words, clusters_flatten (isSimple_of_mem_spelled allWords)]
  exact spelled_wordsFrom_none (not_isSeparator_of_mem_spelled allWords)

end CamelCase

open CamelCase in
/-- Camel case leaves the camel case of a name of simple characters alone exactly if all seams
between its words show. -/
theorem camelCase_camelCase_iff {name : String} (allSimple : ∀ c ∈ name.toList, IsSimple [c]) :
    camelCase (camelCase name) = camelCase name ↔
      seamsShow true (words name.toList) = true := by
  have allWords := isWord_of_mem_words allSimple
  have allSpelled : ∀ cluster ∈ spelled true (words name.toList), IsSimple cluster :=
    isSimple_of_mem_spelled allWords
  have allAgain : ∀ word ∈ words (spelled true (words name.toList)).flatten, IsWord word := by
    apply isWord_of_mem_words
    intro c c_mem
    rcases List.mem_flatten.mp c_mem with ⟨cluster, cluster_mem, mem⟩
    rcases (allSpelled cluster cluster_mem).exists_eq_singleton with ⟨other, rfl⟩
    rw [List.mem_singleton.mp mem]
    exact allSpelled [other] cluster_mem
  have name_eq : (camelCase name).toList = (spelled true (words name.toList)).flatten := by
    rw [camelCase, String.toList_ofList,
      ofWords_eq fun word word_mem => (allWords word word_mem).simple]
  rw [← String.toList_inj, name_eq, camelCase, String.toList_ofList, name_eq,
    ofWords_eq fun word word_mem => (allAgain word word_mem).simple,
    flatten_inj (isSimple_of_mem_spelled allAgain) allSpelled, spelled_words_flatten allWords,
    respell_spelled_iff allWords]

-- one letter behind another is seen as a word of its own only before a small letter
example : CamelCase.seamsShow true (CamelCase.words "a_b_c".toList) = false ∧
    CamelCase.seamsShow true (CamelCase.words "a_b_cd".toList) = true := by
  decide +kernel

end Listing.Text
