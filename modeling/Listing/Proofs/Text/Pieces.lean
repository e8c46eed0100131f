import Listing.Text.Split

/-!
# Pieces of a text

A text is cut at single characters as lists are in the standard library (`splitOn_eq`), and pieces
are joined as lists are (`join_eq`), so that what is known there holds here: a separator in a text
separates the pieces before it from those after it, and a text without separators is one piece.
-/

namespace Listing.Text

theorem consHead_eq {pieces : List (List Char)} (pieces_ne : pieces ≠ []) (c : Char) :
    consHead c pieces = pieces.modifyHead (c :: ·) := by
  cases pieces with
  | nil => exact absurd rfl pieces_ne
  | cons piece pieces => rfl

/-- Texts are cut as lists are. -/
theorem splitOn_eq (separator : Char) (text : List Char) :
    splitOn separator text = text.splitOn separator := by
  induction text with
  | nil => rfl
  | cons c rest ih =>
      rw [splitOn, List.splitOn_cons_eq_if_modifyHead, ih]
      by_cases c_eq : c = separator
      · simp [c_eq]
      · rw [if_neg c_eq, if_neg (by simpa using c_eq),
          consHead_eq (List.splitOn_ne_nil separator rest)]

/-- To turn other separators into one before a text is cut is to cut it at all of them. -/
theorem splitOn_map_eq (separator : Char) (turns : Char → Bool) (text : List Char) :
    splitOn separator (text.map fun c => if turns c then separator else c) =
      text.splitOnP fun c => turns c || c == separator := by
  induction text with
  | nil => rw [List.map_nil, splitOn_nil, List.splitOnP_nil]
  | cons c rest ih =>
      rw [List.map_cons, splitOn, List.splitOnP_cons_eq_if_modifyHead, ih]
      cases turns_eq : turns c with
      | true => simp
      | false =>
          by_cases c_eq : c = separator
          · simp [c_eq]
          · simp [c_eq, consHead_eq (List.splitOnP_ne_nil _ rest)]

/-- A separator in a text separates the pieces before it from those after it. -/
theorem splitOn_append_cons (separator : Char) (text rest : List Char) :
    splitOn separator (text ++ separator :: rest) =
      splitOn separator text ++ splitOn separator rest := by
  simp only [splitOn_eq, List.splitOn_append_cons_self]

theorem splitOn_of_not_mem {separator : Char} {text : List Char} (noText : separator ∉ text) :
    splitOn separator text = [text] := by
  rw [splitOn_eq, List.splitOn_eq_singleton noText]

theorem not_mem_of_mem_splitOn {separator : Char} {text piece : List Char}
    (piece_mem : piece ∈ splitOn separator text) : separator ∉ piece := by
  induction text generalizing piece with
  | nil =>
      rcases List.mem_singleton.mp piece_mem with rfl
      exact List.not_mem_nil
  | cons c rest ih =>
      rw [splitOn] at piece_mem
      by_cases c_eq : c = separator
      · rw [if_pos c_eq, List.mem_cons] at piece_mem
        rcases piece_mem with rfl | piece_mem
        · exact List.not_mem_nil
        · exact ih piece_mem
      · rw [if_neg c_eq] at piece_mem
        cases pieces_eq : splitOn separator rest with
        | nil => exact absurd pieces_eq (splitOn_ne_nil separator rest)
        | cons first others =>
            rw [pieces_eq, consHead, List.mem_cons] at piece_mem
            rcases piece_mem with rfl | piece_mem
            · have noFirst := ih (pieces_eq ▸ List.mem_cons_self)
              simp [Ne.symm c_eq, noFirst]
            · exact ih (pieces_eq ▸ List.mem_cons_of_mem first piece_mem)

/-! ## Joined pieces -/

theorem join_cons (separator : Char) (piece : List Char) {pieces : List (List Char)}
    (pieces_ne : pieces ≠ []) :
    join separator (piece :: pieces) = piece ++ separator :: join separator pieces := by
  cases pieces with
  | nil => exact absurd rfl pieces_ne
  | cons next rest => rfl

/-- Texts are joined as lists are. -/
theorem join_eq (separator : Char) (pieces : List (List Char)) :
    join separator pieces = [separator].intercalate pieces := by
  induction pieces with
  | nil => rfl
  | cons piece rest ih =>
      by_cases rest_eq : rest = []
      · simp [rest_eq, join]
      · rw [join_cons separator piece rest_eq, ih, List.intercalate_cons_of_ne_nil rest_eq,
          List.append_assoc, List.singleton_append]

theorem join_append (separator : Char) {pieces others : List (List Char)} (pieces_ne : pieces ≠ [])
    (others_ne : others ≠ []) :
    join separator (pieces ++ others) =
      join separator pieces ++ separator :: join separator others := by
  induction pieces with
  | nil => exact absurd rfl pieces_ne
  | cons piece rest ih =>
      by_cases rest_eq : rest = []
      · rw [rest_eq, List.singleton_append, join_cons separator piece others_ne, join]
      · rw [List.cons_append, join_cons separator piece (by simp [rest_eq]), ih rest_eq,
          join_cons separator piece rest_eq, List.append_assoc, List.cons_append]

/-- The text of pieces starts as the first of them does, unless that is empty. -/
theorem head?_join_cons (separator : Char) {piece : List Char} (piece_ne : piece ≠ [])
    (pieces : List (List Char)) :
    (join separator (piece :: pieces)).head? = piece.head? := by
  cases piece with
  | nil => exact absurd rfl piece_ne
  | cons c piece => cases pieces <;> rfl

end Listing.Text
