import Listing.Proofs.Text.FormUrlencoded

/-!
# Pairs written into query strings

What is written in the form encoding is read back: every byte (`percentDecode_encodeByte`), every
text (`decode_encode`), every pair (`parse_encodePair`) and every list of pairs
(`parse_serialize`).  A written text has no separator, equals sign or question mark of its own, and
so a pair keeps its place among any other pieces, also where the question marks at the start of a
query string are dropped (`parse_dropWhile_join`).
-/

namespace Listing.Text.FormUrlencoded

/-! ## Bytes -/

theorem forall_byte {P : UInt8 → Prop} (all : ∀ n < 256, P (UInt8.ofNat n)) (b : UInt8) : P b := by
  have b_holds := all b.toNat b.toNat_lt
  rwa [UInt8.ofNat_toNat] at b_holds

/-- A byte is written as itself, a blank included, or as a percent sign with its digits. -/
theorem encode_encodeByte : ∀ b : UInt8,
    Utf8.encode ((encodeByte b).map plusToBlank) =
      if isPlain b || b == 0x20 then [b]
      else [0x25, UInt8.ofNat (hexDigit (b / 16)).toNat,
        UInt8.ofNat (hexDigit (b % 16)).toNat] := by
  apply forall_byte
  decide +kernel

theorem hexByte?_hexDigit : ∀ b : UInt8,
    hexByte? (UInt8.ofNat (hexDigit (b / 16)).toNat) (UInt8.ofNat (hexDigit (b % 16)).toNat) =
      some b := by
  apply forall_byte
  decide +kernel

theorem percentDecode_escape {b high low : UInt8} (byte_eq : hexByte? high low = some b)
    (bytes : List UInt8) :
    percentDecode (0x25 :: high :: low :: bytes) = b :: percentDecode bytes := by
  rw [percentDecode, if_pos rfl, byte_eq]

/-- A written byte is read back, whatever follows it. -/
theorem percentDecode_encodeByte (b : UInt8) (bytes : List UInt8) :
    percentDecode (Utf8.encode ((encodeByte b).map plusToBlank) ++ bytes) =
      b :: percentDecode bytes := by
  rw [encode_encodeByte]
  split
  · next itself =>
      apply percentDecode_cons
      rintro rfl
      exact absurd itself (by decide)
  · exact percentDecode_escape (hexByte?_hexDigit b) bytes

/-- Written bytes are read back. -/
theorem percentDecode_encode (bytes : List UInt8) :
    percentDecode (Utf8.encode ((bytes.flatMap encodeByte).map plusToBlank)) = bytes := by
  induction bytes with
  | nil => rfl
  | cons b bytes ih =>
      rw [List.flatMap_cons, List.map_append, Utf8.encode, List.flatMap_append, ← Utf8.encode,
        ← Utf8.encode, percentDecode_encodeByte, ih]

/-! ## Texts and pairs -/

/-- A written text is read back. -/
@[simp]
theorem decode_encode (text : List Char) : decode (encode text) = text := by
  rw [decode, encode, percentDecode_encode, Utf8.decode_encode]

/-- Characters with a meaning of their own in a query string. -/
def isMark (c : Char) : Bool :=
  c == '&' || c == '=' || c == '?'

theorem all_encodeByte : ∀ b : UInt8, (encodeByte b).all (!isMark ·) := by
  apply forall_byte
  decide +kernel

theorem not_mem_encode {c : Char} (mark : isMark c) (text : List Char) : c ∉ encode text := by
  intro mem
  obtain ⟨b, _, b_mem⟩ := List.mem_flatMap.mp mem
  have eq_none := List.all_eq_true.mp (all_encodeByte b) c b_mem
  rw [mark] at eq_none
  exact absurd eq_none (by decide)

/-- The only such character in a written pair is the equals sign between name and value. -/
theorem not_mem_encodePair {c : Char} (mark : isMark c) (noEquals : c ≠ '=')
    (pair : List Char × List Char) : c ∉ encodePair pair := by
  rw [encodePair, List.mem_append, List.mem_cons, not_or, not_or]
  exact ⟨not_mem_encode mark pair.1, noEquals, not_mem_encode mark pair.2⟩

theorem encodePair_ne_nil (pair : List Char × List Char) : encodePair pair ≠ [] := by
  simp [encodePair]

@[simp]
theorem decodePair_encodePair (pair : List Char × List Char) :
    decodePair (encodePair pair) = pair := by
  rw [decodePair, encodePair, cutAt_append_cons (not_mem_encode rfl pair.1)]
  simp only [Option.getD_some, decode_encode]

theorem parse_encodePair (pair : List Char × List Char) : parse (encodePair pair) = [pair] := by
  have noPiece : '&' ∉ encodePair pair := not_mem_encodePair rfl (by decide) pair
  rw [parse, splitOn_of_not_mem noPiece,
    List.filter_cons_of_pos (by simpa using encodePair_ne_nil pair), List.filter_nil,
    List.map_singleton, decodePair_encodePair]

/-! ## Query strings -/

theorem parse_join (pieces : List (List Char)) :
    parse (join '&' pieces) = pieces.flatMap parse := by
  induction pieces with
  | nil => rfl
  | cons piece rest ih =>
      rw [List.flatMap_cons, ← ih]
      by_cases rest_eq : rest = []
      · subst rest_eq
        exact (List.append_nil _).symm
      · rw [join_cons '&' piece rest_eq, parse_append_cons]

theorem parse_join_cons (pair : List Char × List Char) (pieces : List (List Char)) :
    parse (join '&' (encodePair pair :: pieces)) = pair :: parse (join '&' pieces) := by
  rw [parse_join, List.flatMap_cons, parse_encodePair, ← parse_join, List.singleton_append]

/-- Written pairs are read back in their order. -/
@[simp]
theorem parse_serialize (pairs : List (List Char × List Char)) :
    parse (serialize pairs) = pairs := by
  induction pairs with
  | nil => rfl
  | cons pair pairs ih => rw [serialize, List.map_cons, parse_join_cons, ← serialize, ih]

/-- Only the text before the first other character is touched where characters are dropped at the
start. -/
theorem dropWhile_append_cons {drops : Char → Bool} {c : Char} (c_eq : drops c = false)
    (text rest : List Char) :
    (text ++ c :: rest).dropWhile drops = text.dropWhile drops ++ c :: rest := by
  rw [List.dropWhile_append, List.dropWhile_cons_of_neg (by simp [c_eq])]
  split
  · next empty => rw [List.isEmpty_iff.mp empty, List.nil_append]
  · rfl

/-- A written pair between other pieces is read between the pairs of those, also if question marks
at the start are dropped. -/
theorem parse_dropWhile_join (before after : List (List Char)) (pair : List Char × List Char) :
    parse ((join '&' (before ++ encodePair pair :: after)).dropWhile (· == '?')) =
      parse ((join '&' before).dropWhile (· == '?')) ++ pair :: parse (join '&' after) := by
  by_cases before_eq : before = []
  · subst before_eq
    have head_ne : (join '&' (encodePair pair :: after)).head? ≠ some '?' := by
      rw [head?_join_cons '&' (encodePair_ne_nil pair)]
      exact fun mark_eq => not_mem_encodePair rfl (by decide) pair (List.mem_of_head? mark_eq)
    rw [List.nil_append, (parse_dropWhile_eq_iff rfl (by decide) (by decide) _).mpr head_ne,
      parse_join_cons]
    rfl
  · rw [join_append '&' before_eq (List.cons_ne_nil _ _), dropWhile_append_cons (by decide),
      parse_append_cons, parse_join_cons]

end Listing.Text.FormUrlencoded
