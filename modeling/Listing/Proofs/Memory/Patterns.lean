import Listing.Memory.Pattern
import Listing.Param
import Listing.Proofs.Text.Pieces

/-!
# What patterns mean

A pattern is matched from the left, each piece at its first occurrence behind the piece before.  No
occurrence leaves more text for the pieces that follow (`Text.suffix_of_afterFirst?`), so nothing is
lost by taking the first: a pattern that ends in a percent sign accepts a text exactly if its pieces
can be laid out in the text at all, one behind the other (`accepts_concat_iff`).
-/

namespace Listing

namespace Text

/-- Behind its first occurrence a part leaves at least the text that it leaves behind any other. -/
theorem suffix_of_afterFirst? {part before behind rest : List Char}
    (first_eq : afterFirst? part (before ++ part ++ behind) = some rest) : behind <:+ rest := by
  induction before with
  | nil =>
      have here_eq : after? part (part ++ behind) = some behind := after?_append part behind
      rw [List.nil_append] at first_eq
      cases text_eq : part ++ behind with
      | nil =>
          rw [text_eq] at first_eq here_eq
          exact (Option.some.inj (here_eq.symm.trans first_eq)) ▸ List.suffix_rfl
      | cons c text =>
          rw [text_eq] at first_eq here_eq
          rw [afterFirst?, here_eq] at first_eq
          exact (Option.some.inj first_eq) ▸ List.suffix_rfl
  | cons c before ih =>
      rw [List.cons_append, List.cons_append, afterFirst?] at first_eq
      cases here_eq : after? part (c :: (before ++ part ++ behind)) with
      | none =>
          rw [here_eq] at first_eq
          exact ih first_eq
      | some found =>
          -- an occurrence at the start leaves all that follows as many characters
          rw [here_eq] at first_eq
          cases first_eq
          have text_eq := after?_eq_some_iff.mp here_eq
          have length_eq := congrArg List.length text_eq
          simp only [List.length_cons, List.length_append] at length_eq
          have foundIsSuffix : rest <:+ c :: (before ++ part ++ behind) := ⟨part, text_eq.symm⟩
          have behindIsSuffix : behind <:+ c :: (before ++ part ++ behind) :=
            ⟨c :: (before ++ part), rfl⟩
          exact List.suffix_of_suffix_length_le behindIsSuffix foundIsSuffix (by omega)

end Text

namespace Memory.Pattern

/-! ## Pieces in order -/

/-- The pieces stand in a text in the given order and do not overlap. -/
def InOrder : List (List Char) → List Char → Prop
  | [], _ => True
  | piece :: rest, text => ∃ before behind, text = before ++ piece ++ behind ∧ InOrder rest behind

/-- The text behind the pieces, each of them taken at its first occurrence. -/
def afterPieces? : List (List Char) → List Char → Option (List Char)
  | [], text => some text
  | piece :: rest, text => (Text.afterFirst? piece text).bind (afterPieces? rest)

variable {pieces : List (List Char)} {text : List Char}

theorem InOrder.append_left (piecesInOrder : InOrder pieces text) (before : List Char) :
    InOrder pieces (before ++ text) := by
  cases pieces with
  | nil => trivial
  | cons piece rest =>
      rcases piecesInOrder with ⟨between, behind, rfl, restInOrder⟩
      exact ⟨before ++ between, behind, by simp, restInOrder⟩

/-- Pieces in order are found from the left. -/
theorem afterPieces?_isSome_iff : (afterPieces? pieces text).isSome ↔ InOrder pieces text := by
  induction pieces generalizing text with
  | nil => simp [afterPieces?, InOrder]
  | cons piece pieces ih =>
      constructor
      · intro found
        cases first_eq : Text.afterFirst? piece text with
        | none => simp [afterPieces?, first_eq] at found
        | some behind =>
            rcases Text.exists_append_of_afterFirst? first_eq with ⟨before, rfl⟩
            rw [afterPieces?, first_eq, Option.bind_some] at found
            exact ⟨before, behind, rfl, ih.mp found⟩
      · rintro ⟨before, behind, rfl, inOrder⟩
        cases first_eq : Text.afterFirst? piece (before ++ piece ++ behind) with
        | none => exact absurd rfl (Text.afterFirst?_eq_none_iff.mp first_eq before behind)
        | some rest =>
            rcases Text.suffix_of_afterFirst? first_eq with ⟨more, rfl⟩
            rw [afterPieces?, first_eq, Option.bind_some]
            exact ih.mpr (inOrder.append_left more)

instance (pieces : List (List Char)) (text : List Char) : Decidable (InOrder pieces text) :=
  decidable_of_iff _ afterPieces?_isSome_iff

theorem inOrder_filter_iff : InOrder (pieces.filter (!·.isEmpty)) text ↔ InOrder pieces text := by
  induction pieces generalizing text with
  | nil => rfl
  | cons piece pieces ih =>
      cases piece with
      | nil =>
          rw [List.filter_cons_of_neg (by simp), ih]
          constructor
          · exact fun inOrder => ⟨[], text, rfl, inOrder⟩
          · rintro ⟨before, behind, rfl, inOrder⟩
            rw [List.append_nil]
            exact inOrder.append_left before
      | cons c piece =>
          rw [List.filter_cons_of_pos (by simp)]
          simp only [InOrder, ih]

/-- The first piece stands at the start of a text, and the others that are not empty behind it in
order. -/
def StartsInOrder : List (List Char) → List Char → Prop
  | [], _ => True
  | first :: rest, text =>
      ∃ behind, text = first ++ behind ∧ InOrder (rest.filter (!·.isEmpty)) behind

instance : (pieces : List (List Char)) → (text : List Char) → Decidable (StartsInOrder pieces text)
  | [], _ => inferInstanceAs (Decidable True)
  | first :: rest, text =>
      decidable_of_iff
        (∃ behind ∈ Text.after? first text, InOrder (rest.filter (!·.isEmpty)) behind)
        (exists_congr fun _ => and_congr_left' Text.after?_eq_some_iff)

theorem endsWithPieces_concat (pieces : List (List Char)) (text : List Char) :
    endsWithPieces (pieces ++ [[]]) text = (afterPieces? pieces text).isSome := by
  induction pieces generalizing text with
  | nil => simp [endsWithPieces, afterPieces?]
  | cons piece pieces ih =>
      cases pieces with
      | nil =>
          cases first_eq : Text.afterFirst? piece text <;>
            simp [endsWithPieces, afterPieces?, first_eq]
      | cons next pieces =>
          rw [List.cons_append, List.cons_append, endsWithPieces, afterPieces?]
          cases Text.afterFirst? piece text with
          | none => rfl
          | some behind => exact ih behind

/-- A pattern that ends in a percent sign accepts the texts that its pieces can be laid out in, the
first piece at the start. -/
theorem accepts_concat_iff (pattern : List Char) :
    accepts (pattern ++ ['%']) text = true ↔ StartsInOrder (Text.splitOn '%' pattern) text := by
  have pieces_eq : Text.splitOn '%' (pattern ++ ['%']) = Text.splitOn '%' pattern ++ [[]] :=
    Text.splitOn_append_cons '%' pattern []
  rw [accepts, pieces_eq]
  cases split_eq : Text.splitOn '%' pattern with
  | nil => exact absurd split_eq (Text.splitOn_ne_nil '%' pattern)
  | cons first rest =>
      rw [List.cons_append]
      cases first_eq : Text.after? first text with
      | none =>
          have missed : ∀ behind, text ≠ first ++ behind := by
            intro behind text_eq
            rw [Text.after?_eq_some_iff.mpr text_eq] at first_eq
            cases first_eq
          simp [first_eq, StartsInOrder, missed]
      | some behind =>
          have text_eq : text = first ++ behind := Text.after?_eq_some_iff.mp first_eq
          simp [endsWithPieces_concat, afterPieces?_isSome_iff, StartsInOrder, inOrder_filter_iff,
            text_eq]

/-! ## Values of requests -/

/-- The pieces of a value for the search operator: what stands between blanks and percent signs. -/
def searchPieces (raw : String) : List (List Char) :=
  (raw.toList.splitOnP fun c => c == ' ' || c == '%').filter (!·.isEmpty)

/-- A search pattern accepts the texts that hold the pieces of the value in order. -/
theorem accepts_searchPattern_iff (raw : String) :
    accepts (Param.searchPattern raw).toList text = true ↔ InOrder (searchPieces raw) text := by
  have pieces_eq := Text.splitOn_map_eq '%' (fun c => c == ' ') raw.toList
  simp only [beq_iff_eq] at pieces_eq
  rw [Param.searchPattern, String.toList_ofList, Param.wildcard, accepts_concat_iff, Text.splitOn,
    if_pos rfl, pieces_eq]
  simp only [StartsInOrder, List.nil_append, exists_eq_left', searchPieces]

-- the two pieces share a letter in the first text
example : ¬InOrder (searchPieces "aba ba") "abab".toList ∧
    InOrder (searchPieces "aba ba") "ababa".toList := by
  decide +kernel

/-- A start pattern accepts the texts that start with the first piece of the value and hold the
others behind it in order. -/
theorem accepts_startPattern_iff (raw : String) :
    accepts (Param.startPattern raw).toList text = true ↔
      StartsInOrder (raw.toList.splitOn '%') text := by
  rw [Param.startPattern, String.toList_ofList, Param.wildcard, accepts_concat_iff, Text.splitOn_eq]

/-- Without percent signs these are the texts that start with the value. -/
theorem startsInOrder_iff_of_not_mem {raw : List Char} (noRaw : '%' ∉ raw) :
    StartsInOrder (raw.splitOn '%') text ↔ raw <+: text := by
  rw [← Text.splitOn_eq, Text.splitOn_of_not_mem noRaw]
  simp only [StartsInOrder, List.filter_nil, InOrder, and_true]
  exact exists_congr fun behind => eq_comm

end Memory.Pattern

end Listing
