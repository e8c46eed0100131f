/-!
# Cutting text at delimiters

Keys, lists of values and search patterns are cut into pieces at fixed delimiters.  All functions
here work on lists of characters.  The main statements: what follows a given beginning is what has
to be appended to that beginning (`after?_eq_some_iff`), and a text can be found inside another
exactly if the other can be written around it (`afterFirst?_eq_none_iff`).
-/

namespace Listing.Text

/-! ## Pieces between single characters -/

/-- Adds a character to the front of the first piece. -/
def consHead (c : Char) : List (List Char) → List (List Char)
  | [] => [[c]]
  | piece :: pieces => (c :: piece) :: pieces

/-- The pieces of a text between the occurrences of a separator; there is one piece more than there
are separators, and pieces may be empty. -/
def splitOn (separator : Char) : List Char → List (List Char)
  | [] => [[]]
  | c :: rest =>
      if c = separator then [] :: splitOn separator rest
      else consHead c (splitOn separator rest)

/-- The pieces with the separator written between neighbours. -/
def join (separator : Char) : List (List Char) → List Char
  | [] => []
  | [piece] => piece
  | piece :: next :: pieces => piece ++ separator :: join separator (next :: pieces)

@[simp]
theorem splitOn_nil (separator : Char) : splitOn separator [] = [[]] :=
  rfl

theorem splitOn_ne_nil (separator : Char) (text : List Char) : splitOn separator text ≠ [] := by
  cases text with
  | nil => simp
  | cons c rest =>
      simp only [splitOn]
      split
      · simp
      · cases splitOn separator rest <;> simp [consHead]

/-! ## Pieces between doubled characters -/

/-- The pieces of a text between the occurrences of a doubled character, taken from the left
without overlap: of three in a row the first two are a delimiter and the third is text. -/
def splitOnDouble (mark : Char) : List Char → List (List Char)
  | [] => [[]]
  | [c] => [[c]]
  | c :: d :: rest =>
      if c = mark ∧ d = mark then [] :: splitOnDouble mark rest
      else consHead c (splitOnDouble mark (d :: rest))

/-! ## Beginnings -/

/-- What follows the given beginning, if the text starts with it. -/
def after? : List Char → List Char → Option (List Char)
  | [], text => some text
  | _ :: _, [] => none
  | b :: beginning, c :: text => if b = c then after? beginning text else none

/-- A text has a given beginning exactly if it is that beginning followed by the rest. -/
theorem after?_eq_some_iff {beginning text rest : List Char} :
    after? beginning text = some rest ↔ text = beginning ++ rest := by
  induction beginning generalizing text with
  | nil => simp [after?, eq_comm]
  | cons b beginning ih =>
      cases text with
      | nil => simp [after?]
      | cons c text =>
          simp only [after?, List.cons_append, List.cons.injEq]
          split
          · rename_i same
            simp [ih, same]
          · rename_i differs
            simp [Ne.symm differs]

@[simp]
theorem after?_append (beginning rest : List Char) :
    after? beginning (beginning ++ rest) = some rest :=
  after?_eq_some_iff.mpr rfl

/-! ## Occurrences -/

/-- What follows the leftmost occurrence of a part in a text. -/
def afterFirst? (part : List Char) : List Char → Option (List Char)
  | [] => after? part []
  | c :: text =>
      match after? part (c :: text) with
      | some rest => some rest
      | none => afterFirst? part text

theorem exists_append_of_afterFirst? {part text rest : List Char}
    (found_eq : afterFirst? part text = some rest) :
    ∃ before, text = before ++ part ++ rest := by
  induction text with
  | nil => exact ⟨[], by simpa [afterFirst?, after?_eq_some_iff] using found_eq⟩
  | cons c text ih =>
      simp only [afterFirst?] at found_eq
      split at found_eq
      · rename_i found here_eq
        cases found_eq
        exact ⟨[], by simpa [after?_eq_some_iff] using here_eq⟩
      · rcases ih found_eq with ⟨before, before_eq⟩
        exact ⟨c :: before, by simp [before_eq]⟩

/-- A part is missed only if it does not stand anywhere in the text. -/
theorem afterFirst?_eq_none_iff {part text : List Char} :
    afterFirst? part text = none ↔ ∀ before rest, text ≠ before ++ part ++ rest := by
  constructor
  · intro missed before rest text_eq
    induction text generalizing before with
    | nil =>
        rcases before with _ | ⟨_, _⟩ <;> simp at text_eq
        have part_eq := text_eq.1
        subst part_eq
        simp [afterFirst?, after?] at missed
    | cons c text ih =>
        simp only [afterFirst?] at missed
        split at missed
        · simp at missed
        · rename_i here_eq
          cases before with
          | nil =>
              rw [List.nil_append] at text_eq
              simp [after?_eq_some_iff.mpr text_eq] at here_eq
          | cons b before =>
              simp only [List.cons_append, List.cons.injEq] at text_eq
              exact ih missed before text_eq.2
  · intro never
    cases found_eq : afterFirst? part text with
    | none => rfl
    | some rest =>
        rcases exists_append_of_afterFirst? found_eq with ⟨before, before_eq⟩
        exact absurd before_eq (never before rest)

/-- Splits a text at the first occurrence of a character; without one, all of it is the first part
and the second is absent. -/
def cutAt (mark : Char) : List Char → List Char × Option (List Char)
  | [] => ([], none)
  | c :: rest =>
      if c = mark then ([], some rest)
      else ((c :: (cutAt mark rest).1), (cutAt mark rest).2)

end Listing.Text
