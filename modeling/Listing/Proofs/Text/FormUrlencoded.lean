import Listing.Proofs.Text.Pieces
import Listing.Proofs.Text.Utf8
import Listing.Text.FormUrlencoded

/-!
# Query strings one character at a time

Most characters of a query string stand for themselves (`isVerbatim`): in front of a text they come
to the front of what the text stands for (`decode_cons`).  A query string can be continued after a
separator (`parse_append_cons`), and another character in front of it always makes for other pairs
(`parse_dropWhile_eq_iff`).
-/

namespace Listing

namespace Text

theorem cutAt_append_cons {mark : Char} {name : List Char} (noName : mark ∉ name)
    (value : List Char) : cutAt mark (name ++ mark :: value) = (name, some value) := by
  induction name with
  | nil => simp [cutAt]
  | cons c name ih =>
      rw [List.mem_cons, not_or] at noName
      rw [List.cons_append, cutAt, if_neg (Ne.symm noName.1), ih noName.2]

namespace FormUrlencoded

/-! ## Decoding -/

/-- Characters that stand for themselves: those of ASCII, but for the percent sign and the plus
sign. -/
def isVerbatim (c : Char) : Bool :=
  c.toNat < 0x80 && c ≠ '%' && c ≠ '+'

theorem isVerbatim_iff {c : Char} : isVerbatim c ↔ c.toNat < 0x80 ∧ c ≠ '%' ∧ c ≠ '+' := by
  simp only [isVerbatim, Bool.and_eq_true, decide_eq_true_eq, and_assoc]

theorem percentDecode_cons {b : UInt8} (noPercent : b ≠ 0x25) (bytes : List UInt8) :
    percentDecode (b :: bytes) = b :: percentDecode bytes := by
  rcases bytes with _ | ⟨c, _ | ⟨d, bytes⟩⟩
  · rfl
  · rfl
  · rw [percentDecode, if_neg noPercent]

/-- A character that stands for itself comes to the front of the decoded text. -/
theorem decode_cons {c : Char} (verbatim : isVerbatim c) (text : List Char) :
    decode (c :: text) = c :: decode text := by
  obtain ⟨ascii_lt, noPercent, noPlus⟩ := isVerbatim_iff.mp verbatim
  have code_eq : (UInt8.ofNat c.toNat).toNat = c.toNat := by
    rw [UInt8.toNat_ofNat']
    omega
  have byte_ne : UInt8.ofNat c.toNat ≠ 0x25 := by
    intro byte_eq
    apply noPercent
    rw [← Char.ofNat_toNat c, ← code_eq, byte_eq]
    rfl
  rw [decode, List.map_cons, plusToBlank, if_neg noPlus, Utf8.encode_cons ascii_lt,
    percentDecode_cons byte_ne, Utf8.decode_ofNat_cons ascii_lt, Char.ofNat_toNat, decode]

/-- A text of characters that stand for themselves is decoded as itself. -/
theorem decode_of_isVerbatim {text : List Char} (verbatim : text.all isVerbatim) :
    decode text = text := by
  induction text with
  | nil => rfl
  | cons c text ih =>
      rw [List.all_cons, Bool.and_eq_true] at verbatim
      rw [decode_cons verbatim.1, ih verbatim.2]

/-! ## Query strings -/

/-- A query string can be continued after a separator. -/
theorem parse_append_cons (query rest : List Char) :
    parse (query ++ '&' :: rest) = parse query ++ parse rest := by
  rw [parse, splitOn_append_cons, List.filter_append, List.map_append, parse, parse]

/-- A pair of texts that stand for themselves is read as it is written. -/
theorem parse_verbatim {name value : List Char} (name_true : name.all isVerbatim)
    (value_true : value.all isVerbatim) (noPair : '&' ∉ name ++ '=' :: value)
    (noEquals : '=' ∉ name) : parse (name ++ '=' :: value) = [(name, value)] := by
  rw [parse, splitOn_of_not_mem noPair, List.filter_cons_of_pos (by simp), List.filter_nil,
    List.map_singleton, decodePair, cutAt_append_cons noEquals]
  simp only [decode_of_isVerbatim name_true, decode_of_isVerbatim value_true, Option.getD_some]

/-! ## Another character in front -/

/-- How much a list of pairs names: one for each pair and one for each character of its name. -/
def named : List (List Char × List Char) → Nat
  | [] => 0
  | pair :: pairs => pair.1.length + 1 + named pairs

section

variable {c : Char} (verbatim : isVerbatim c) (noSeparator : c ≠ '&') (noEquals : c ≠ '=')

include verbatim noEquals

/-- A character that stands for itself comes to the front of the name of a pair. -/
theorem decodePair_cons (piece : List Char) :
    decodePair (c :: piece) = (c :: (decodePair piece).1, (decodePair piece).2) := by
  simp only [decodePair, cutAt, if_neg noEquals, decode_cons verbatim]

include noSeparator

/-- In front of a query string such a character names more: it comes to the front of the first name,
or makes a pair of its own if the first piece is empty. -/
theorem named_parse_lt (query : List Char) :
    named (parse query) < named (parse (c :: query)) := by
  rw [parse, parse, splitOn, if_neg noSeparator]
  cases pieces_eq : splitOn '&' query with
  | nil => exact absurd pieces_eq (splitOn_ne_nil '&' query)
  | cons piece pieces =>
      have front_eq : ((c :: piece) :: pieces).filter (!·.isEmpty) =
          (c :: piece) :: pieces.filter (!·.isEmpty) := rfl
      rw [consHead, front_eq, List.map_cons, decodePair_cons verbatim noEquals]
      cases piece with
      | nil => simp [named]
      | cons d piece => simp [named]

theorem named_parse_dropWhile_le (query : List Char) :
    named (parse (query.dropWhile (· == c))) ≤ named (parse query) := by
  induction query with
  | nil => exact Nat.le_refl _
  | cons d query ih =>
      rw [List.dropWhile_cons]
      split
      · rename_i d_eq
        obtain rfl := beq_iff_eq.mp d_eq
        exact Nat.le_trans ih (Nat.le_of_lt (named_parse_lt verbatim noSeparator noEquals query))
      · exact Nat.le_refl _

/-- Without such characters at the start the pairs are the same exactly if there are none. -/
theorem parse_dropWhile_eq_iff (query : List Char) :
    parse (query.dropWhile (· == c)) = parse query ↔ query.head? ≠ some c := by
  cases query with
  | nil => simp
  | cons d query =>
      rw [List.head?_cons, ne_eq, Option.some.injEq, List.dropWhile_cons]
      constructor
      · rintro parse_eq rfl
        rw [if_pos (beq_self_eq_true d)] at parse_eq
        have le := named_parse_dropWhile_le verbatim noSeparator noEquals query
        have lt := named_parse_lt verbatim noSeparator noEquals query
        rw [← parse_eq] at lt
        exact Nat.not_lt_of_le le lt
      · intro d_ne
        rw [if_neg (by simpa using d_ne)]

end

end FormUrlencoded

end Text

end Listing
