import Listing.Text.CamelCase

/-!
# Characters with simple letter case

The letter case of a text need not be that of its characters: a letter may have a longer form, a
capital sigma looks at its surroundings, and marks make one cluster with the letter before them.
Most characters are free of this.  They stand alone, and they are the small or the capital form of a
pair whose forms change into each other, or the same character twice where letter case means nothing
(`CasePair`).  Texts of such characters are read cluster by cluster, and putting a cluster into
small letters or capitals only chooses one of the two forms, whichever it had.
-/

namespace Listing.Text

/-! ## Clusters -/

namespace Grapheme

/-- A character that shares no cluster with others of its kind. -/
structure StandsAlone (c : Char) : Prop where
  not_return : c ≠ '\r'
  not_extend : isExtend c = false
  not_spacingMark : isSpacingMark c = false
  not_prepend : isPrepend c = false

instance (c : Char) : Decidable (StandsAlone c) :=
  decidable_of_iff
    (c ≠ '\r' ∧ isExtend c = false ∧ isSpacingMark c = false ∧ isPrepend c = false)
    ⟨fun ⟨not_return, not_extend, not_spacingMark, not_prepend⟩ =>
      ⟨not_return, not_extend, not_spacingMark, not_prepend⟩,
    fun ⟨not_return, not_extend, not_spacingMark, not_prepend⟩ =>
      ⟨not_return, not_extend, not_spacingMark, not_prepend⟩⟩

theorem Reading.joins_of_standsAlone {reading : Reading} {next : Char}
    (lastAlone : StandsAlone reading.last) (nextAlone : StandsAlone next) :
    reading.joins next = false := by
  have joiner_ne : reading.last ≠ joiner := by
    intro lastJoiner_eq
    have extend_false := lastAlone.not_extend
    rw [lastJoiner_eq] at extend_false
    simp [isExtend] at extend_false
  simp [joins, lastAlone.not_return, lastAlone.not_prepend, nextAlone.not_extend,
    nextAlone.not_spacingMark, joiner_ne]

theorem clustersFrom_of_standsAlone {reading : Reading} {text : List Char}
    (lastAlone : StandsAlone reading.last) (alone : ∀ c ∈ text, StandsAlone c)
    (current : List Char) :
    clustersFrom reading current text = current.reverse :: text.map fun c => [c] := by
  induction text generalizing reading current with
  | nil => rfl
  | cons c rest ih =>
      rcases List.forall_mem_cons.mp alone with ⟨headAlone, allRest⟩
      rw [clustersFrom, Reading.joins_of_standsAlone lastAlone headAlone,
        if_neg Bool.false_ne_true, ih headAlone allRest]
      rfl

theorem clusters_of_standsAlone {text : List Char} (alone : ∀ c ∈ text, StandsAlone c) :
    clusters text = text.map fun c => [c] := by
  cases text with
  | nil => rfl
  | cons c rest =>
      rcases List.forall_mem_cons.mp alone with ⟨standsAlone, allRest⟩
      rw [clusters, clustersFrom_of_standsAlone standsAlone allRest]
      rfl

end Grapheme

/-! ## Letter case of characters -/

namespace LetterCase

/-- Without a capital sigma the surroundings of a character do not matter. -/
theorem lowerAfter_eq_flatMap {text : List Char} (noSigma : 'Σ' ∉ text) (before : List Char) :
    lowerAfter before text = text.flatMap fun c => lower [c] := by
  induction text generalizing before with
  | nil => rfl
  | cons c rest ih =>
      have c_ne : c ≠ 'Σ' := fun c_eq => noSigma (c_eq ▸ List.mem_cons_self)
      have noRest : 'Σ' ∉ rest := fun mem => noSigma (List.mem_cons_of_mem c mem)
      simp only [lowerAfter, lower, List.flatMap_cons, if_neg c_ne, ih noRest, List.append_nil]

/-- Pieces without a capital sigma can be put into small letters one by one. -/
theorem lower_flatten {pieces : List (List Char)} (noSigma : ∀ piece ∈ pieces, 'Σ' ∉ piece) :
    lower pieces.flatten = (pieces.map lower).flatten := by
  have all : 'Σ' ∉ pieces.flatten := by simpa using noSigma
  rw [lower, lowerAfter_eq_flatMap all]
  induction pieces with
  | nil => rfl
  | cons piece pieces ih =>
      rcases List.forall_mem_cons.mp noSigma with ⟨noPiece, allPieces⟩
      rw [List.flatten_cons, List.flatMap_append, List.map_cons, List.flatten_cons,
        ih allPieces (by simpa using allPieces), lower, lowerAfter_eq_flatMap noPiece]

end LetterCase

namespace CamelCase

open Grapheme (StandsAlone)
open LetterCase (lower upper)

/-- Two characters that are the small and the capital form of each other. -/
structure CasePair (small capital : Char) : Prop where
  lower_small : lower [small] = [small]
  lower_capital : lower [capital] = [small]
  upper_small : upper [small] = [capital]
  upper_capital : upper [capital] = [capital]
  alone_small : StandsAlone small
  alone_capital : StandsAlone capital
  not_sigma : capital ≠ 'Σ'

instance (small capital : Char) : Decidable (CasePair small capital) :=
  decidable_of_iff
    (lower [small] = [small] ∧ lower [capital] = [small] ∧ upper [small] = [capital] ∧
      upper [capital] = [capital] ∧ StandsAlone small ∧ StandsAlone capital ∧ capital ≠ 'Σ')
    ⟨fun ⟨lower_small, lower_capital, upper_small, upper_capital, alone_small, alone_capital,
        not_sigma⟩ =>
      ⟨lower_small, lower_capital, upper_small, upper_capital, alone_small, alone_capital,
        not_sigma⟩,
    fun ⟨lower_small, lower_capital, upper_small, upper_capital, alone_small, alone_capital,
        not_sigma⟩ =>
      ⟨lower_small, lower_capital, upper_small, upper_capital, alone_small, alone_capital,
        not_sigma⟩⟩

/-- The clusters of one character from such a pair. -/
inductive IsSimple : List Char → Prop
  | small {small capital : Char} (casePair : CasePair small capital) : IsSimple [small]
  | capital {small capital : Char} (casePair : CasePair small capital) : IsSimple [capital]

/-- What holds of the first 128 code points can be decided for each of them. -/
theorem of_lt_128 {property : Char → Prop} (allCodes : ∀ code < 0x80, property (Char.ofNat code))
    {c : Char} (c_lt : c.toNat < 0x80) : property c := by
  have code_holds := allCodes c.toNat c_lt
  rwa [Char.ofNat_toNat] at code_holds

/-- All characters up to the code point 127, other than the carriage return, are simple. -/
theorem isSimple_of_lt {c : Char} (c_lt : c.toNat < 0x80) (noReturn : c ≠ '\r') : IsSimple [c] := by
  have casePairs : c ≠ '\r' → CasePair c.toLower c.toUpper ∧ (c = c.toLower ∨ c = c.toUpper) := by
    apply of_lt_128 ?_ c_lt
    decide +kernel
  rcases casePairs noReturn with ⟨casePair, form_eq | form_eq⟩
  · rw [form_eq]
    exact .small casePair
  · rw [form_eq]
    exact .capital casePair

/-- A cluster that differs in small letters and in capitals. -/
def hasCase (cluster : List Char) : Bool :=
  upper cluster != lower cluster

namespace IsSimple

variable {cluster : List Char}

theorem standsAlone (simple : IsSimple cluster) : ∀ c ∈ cluster, StandsAlone c := by
  cases simple with
  | small casePair => simpa using casePair.alone_small
  | capital casePair => simpa using casePair.alone_capital

theorem exists_eq_singleton (simple : IsSimple cluster) : ∃ c, cluster = [c] := by
  cases simple <;> exact ⟨_, rfl⟩

theorem not_mem_sigma (simple : IsSimple cluster) : 'Σ' ∉ cluster := by
  cases simple with
  | @small small capital casePair =>
      rw [List.mem_singleton]
      rintro rfl
      exact absurd casePair.lower_small (by decide +kernel)
  | capital casePair => simpa [eq_comm] using casePair.not_sigma

/-! ## Forms -/

theorem lower (simple : IsSimple cluster) : IsSimple (LetterCase.lower cluster) := by
  cases simple with
  | small casePair =>
      rw [casePair.lower_small]
      exact .small casePair
  | capital casePair =>
      rw [casePair.lower_capital]
      exact .small casePair

theorem upper (simple : IsSimple cluster) : IsSimple (LetterCase.upper cluster) := by
  cases simple with
  | small casePair =>
      rw [casePair.upper_small]
      exact .capital casePair
  | capital casePair =>
      rw [casePair.upper_capital]
      exact .capital casePair

theorem eq_lower_or_eq_upper (simple : IsSimple cluster) :
    cluster = LetterCase.lower cluster ∨ cluster = LetterCase.upper cluster := by
  cases simple with
  | small casePair => exact .inl casePair.lower_small.symm
  | capital casePair => exact .inr casePair.upper_capital.symm

theorem lower_lower (simple : IsSimple cluster) :
    LetterCase.lower (LetterCase.lower cluster) = LetterCase.lower cluster := by
  cases simple with
  | small casePair => simp only [casePair.lower_small]
  | capital casePair => simp only [casePair.lower_capital, casePair.lower_small]

theorem upper_lower (simple : IsSimple cluster) :
    LetterCase.upper (LetterCase.lower cluster) = LetterCase.upper cluster := by
  cases simple with
  | small casePair => simp only [casePair.lower_small]
  | capital casePair =>
      simp only [casePair.lower_capital, casePair.upper_small, casePair.upper_capital]

theorem lower_upper (simple : IsSimple cluster) :
    LetterCase.lower (LetterCase.upper cluster) = LetterCase.lower cluster := by
  cases simple with
  | small casePair => simp only [casePair.upper_small, casePair.lower_capital, casePair.lower_small]
  | capital casePair => simp only [casePair.upper_capital]

theorem upper_upper (simple : IsSimple cluster) :
    LetterCase.upper (LetterCase.upper cluster) = LetterCase.upper cluster := by
  cases simple with
  | small casePair => simp only [casePair.upper_small, casePair.upper_capital]
  | capital casePair => simp only [casePair.upper_capital]

/-! ## Kinds -/

theorem hasCase_lower (simple : IsSimple cluster) :
    hasCase (LetterCase.lower cluster) = hasCase cluster := by
  rw [hasCase, simple.upper_lower, simple.lower_lower, hasCase]

theorem hasCase_upper (simple : IsSimple cluster) :
    hasCase (LetterCase.upper cluster) = hasCase cluster := by
  rw [hasCase, simple.upper_upper, simple.lower_upper, hasCase]

theorem isLower_lower (simple : IsSimple cluster) :
    isLower (LetterCase.lower cluster) = hasCase cluster := by
  simp [isLower, hasCase, simple.upper_lower, simple.lower_lower]

theorem isUpper_upper (simple : IsSimple cluster) :
    isUpper (LetterCase.upper cluster) = hasCase cluster := by
  simp [isUpper, hasCase, simple.upper_upper, simple.lower_upper]

theorem isUpper_lower (simple : IsSimple cluster) :
    isUpper (LetterCase.lower cluster) = false := by
  rw [isUpper, simple.upper_lower, simple.lower_lower]
  by_cases form_eq : LetterCase.upper cluster = LetterCase.lower cluster
  · simp [form_eq]
  · simp [Ne.symm form_eq]

theorem isLower_upper (simple : IsSimple cluster) :
    isLower (LetterCase.upper cluster) = false := by
  rw [isLower, simple.upper_upper, simple.lower_upper]
  by_cases form_eq : LetterCase.upper cluster = LetterCase.lower cluster <;> simp [form_eq]

/-- A cluster that differs in small letters and in capitals is in one of them. -/
theorem isUpper_or_isLower (simple : IsSimple cluster) :
    (isUpper cluster || isLower cluster) = hasCase cluster := by
  rcases simple.eq_lower_or_eq_upper with form_eq | form_eq
  · rw [form_eq, simple.isUpper_lower, simple.isLower_lower, simple.hasCase_lower, Bool.false_or]
  · rw [form_eq, simple.isUpper_upper, simple.isLower_upper, simple.hasCase_upper, Bool.or_false]

theorem forms_eq (simple : IsSimple cluster) (caseless : hasCase cluster = false) :
    LetterCase.lower cluster = cluster ∧ LetterCase.upper cluster = cluster := by
  have forms_same : LetterCase.upper cluster = LetterCase.lower cluster := by
    simpa [hasCase] using caseless
  rcases simple.eq_lower_or_eq_upper with form_eq | form_eq
  · exact ⟨form_eq.symm, forms_same.trans form_eq.symm⟩
  · exact ⟨forms_same.symm.trans form_eq.symm, form_eq.symm⟩

/-- A kind of characters without letter case is told by every form of a cluster alike. -/
theorem kind_forms {kind : List Char → Bool}
    (allKind : ∀ c, kind [c] = true → hasCase [c] = false) (simple : IsSimple cluster) :
    kind (LetterCase.lower cluster) = kind cluster ∧
      kind (LetterCase.upper cluster) = kind cluster := by
  cases case_eq : hasCase cluster with
  | false =>
      rw [(simple.forms_eq case_eq).1, (simple.forms_eq case_eq).2]
      exact ⟨rfl, rfl⟩
  | true =>
      have never : ∀ {other : List Char}, IsSimple other → hasCase other = true →
          kind other = false := by
        intro other otherIsSimple cased
        rcases otherIsSimple.exists_eq_singleton with ⟨c, rfl⟩
        cases c_eq : kind [c] with
        | false => rfl
        | true =>
            rw [allKind c c_eq] at cased
            cases cased
      rw [never simple case_eq, never simple.lower (simple.hasCase_lower.trans case_eq),
        never simple.upper (simple.hasCase_upper.trans case_eq)]
      exact ⟨rfl, rfl⟩

end IsSimple

theorem hasCase_of_isDigit (c : Char) (digit : isDigit [c] = true) : hasCase [c] = false := by
  have bound : c.toNat < 0x80 := by
    have range : c.isDigit = true := by simpa [isDigit] using digit
    simp only [Char.isDigit, Bool.and_eq_true, decide_eq_true_eq, UInt32.le_iff_toNat_le] at range
    exact Nat.lt_of_le_of_lt range.2 (by decide)
  have expressible : isDigit [c] = true → hasCase [c] = false := by
    apply of_lt_128 ?_ bound
    decide +kernel
  exact expressible digit

theorem hasCase_of_isSeparator (c : Char) (separator : isSeparator [c] = true) :
    hasCase [c] = false := by
  simp only [isSeparator, Bool.or_eq_true, beq_iff_eq] at separator
  rcases separator with (c_eq | c_eq) | c_eq <;> rw [c_eq] <;> decide +kernel

namespace IsSimple

variable {cluster : List Char}

theorem isDigit_of_hasCase (simple : IsSimple cluster) (cased : hasCase cluster = true) :
    isDigit cluster = false := by
  rcases simple.exists_eq_singleton with ⟨c, rfl⟩
  cases digit_eq : isDigit [c] with
  | false => rfl
  | true =>
      rw [hasCase_of_isDigit c digit_eq] at cased
      cases cased

theorem isDigit_lower (simple : IsSimple cluster) :
    isDigit (LetterCase.lower cluster) = isDigit cluster :=
  (simple.kind_forms hasCase_of_isDigit).1

theorem isDigit_upper (simple : IsSimple cluster) :
    isDigit (LetterCase.upper cluster) = isDigit cluster :=
  (simple.kind_forms hasCase_of_isDigit).2

theorem isSeparator_lower (simple : IsSimple cluster) :
    isSeparator (LetterCase.lower cluster) = isSeparator cluster :=
  (simple.kind_forms hasCase_of_isSeparator).1

theorem isSeparator_upper (simple : IsSimple cluster) :
    isSeparator (LetterCase.upper cluster) = isSeparator cluster :=
  (simple.kind_forms hasCase_of_isSeparator).2

end IsSimple

end CamelCase

end Listing.Text
