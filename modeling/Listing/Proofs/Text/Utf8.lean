import Listing.Text.Utf8

/-!
# Text as bytes

A character beyond ASCII is written as a first byte and up to three continuation bytes.  The first
byte says how many bytes follow and which ones may come next (`begin?_two`, `begin?_three`,
`begin?_four`), every continuation byte adds six bits (`decodeFrom_continuation`), and together they
give the number of the character.  So a text is read back from its bytes (`decode_encode`).
-/

namespace Listing.Text.Utf8

/-! ## Characters of one byte -/

theorem encode_cons {c : Char} (ascii_lt : c.toNat < 0x80) (text : List Char) :
    encode (c :: text) = UInt8.ofNat c.toNat :: encode text := by
  have byte_le : c.val.toNat ≤ 127 := Nat.le_of_lt_succ ascii_lt
  rw [encode, List.flatMap_cons, String.utf8EncodeChar, if_pos byte_le, ← encode]
  rfl

theorem decode_cons {b : UInt8} (ascii_lt : b < 0x80) (bytes : List UInt8) :
    decode (b :: bytes) = Char.ofNat b.toNat :: decode bytes := by
  have begin_eq : begin? b = none := by
    simp only [begin?]
    grind
  rw [decode, decodeFrom, begin_eq, single, if_pos ascii_lt]
  rfl

theorem decode_ofNat_cons {n : Nat} (ascii_lt : n < 0x80) (bytes : List UInt8) :
    decode (UInt8.ofNat n :: bytes) = Char.ofNat n :: decode bytes := by
  have byte_eq : (UInt8.ofNat n).toNat = n := by
    rw [UInt8.toNat_ofNat']
    omega
  have small : UInt8.ofNat n < 0x80 := by
    rw [UInt8.lt_iff_toNat_lt, byte_eq]
    exact ascii_lt
  rw [decode_cons small, byte_eq]

/-! ## First bytes -/

theorem begin?_two : ∀ lead < 32, 2 ≤ lead →
    begin? (UInt8.ofNat (lead + 192)) = some ⟨1, lead, 0x80, 0xBF⟩ := by
  decide

theorem begin?_three : ∀ lead < 16,
    begin? (UInt8.ofNat (lead + 224)) =
      some ⟨2, lead, if lead = 0 then 0xA0 else 0x80, if lead = 13 then 0x9F else 0xBF⟩ := by
  decide

theorem begin?_four : ∀ lead < 5,
    begin? (UInt8.ofNat (lead + 240)) =
      some ⟨3, lead, if lead = 0 then 0x90 else 0x80, if lead = 4 then 0x8F else 0xBF⟩ := by
  decide

theorem decodeFrom_none_cons {b : UInt8} {pending : Pending} (begin_eq : begin? b = some pending)
    (bytes : List UInt8) : decodeFrom none (b :: bytes) = decodeFrom (some pending) bytes := by
  have large : ¬b < 0x80 := by
    intro small
    simp only [begin?] at begin_eq
    grind
  rw [decodeFrom, single, if_neg large, begin_eq]
  rfl

/-! ## Continuation bytes -/

/-- The byte that carries the last six bits of a number. -/
def continuation (n : Nat) : UInt8 :=
  UInt8.ofNat (n % 64 + 128)

theorem toNat_continuation (n : Nat) : (continuation n).toNat = n % 64 + 128 := by
  rw [continuation, UInt8.toNat_ofNat']
  omega

theorem continuation_mem {n : Nat} {low high : UInt8} (low_le : low.toNat ≤ n % 64 + 128)
    (high_le : n % 64 + 128 ≤ high.toNat) : low ≤ continuation n ∧ continuation n ≤ high := by
  rw [UInt8.le_iff_toNat_le, UInt8.le_iff_toNat_le, toNat_continuation]
  exact ⟨low_le, high_le⟩

/-- Where nothing else is known a sequence may go on with every continuation byte. -/
theorem continuation_bounds (n : Nat) : 0x80 ≤ continuation n ∧ continuation n ≤ 0xBF := by
  apply continuation_mem
  · change 128 ≤ n % 64 + 128
    omega
  · change n % 64 + 128 ≤ 191
    omega

section

variable {code n : Nat} {low high : UInt8}
  (bounds : low ≤ continuation n ∧ continuation n ≤ high) (bytes : List UInt8)

include bounds

/-- A continuation byte within the bounds adds six bits and leaves one byte less to come. -/
theorem decodeFrom_continuation (needed : Nat) :
    decodeFrom (some ⟨needed, code, low, high⟩) (continuation n :: bytes) =
      if needed ≤ 1 then Char.ofNat (code * 64 + n % 64) :: decodeFrom none bytes
      else decodeFrom (some ⟨needed - 1, code * 64 + n % 64, 0x80, 0xBF⟩) bytes := by
  have bits_eq : (continuation n).toNat % 64 = n % 64 := by
    rw [toNat_continuation]
    omega
  rw [decodeFrom, if_pos (by simp only [bounds, decide_true, Bool.and_self]), bits_eq]

theorem decodeFrom_last : decodeFrom (some ⟨1, code, low, high⟩) (continuation n :: bytes) =
    Char.ofNat (code * 64 + n % 64) :: decodeFrom none bytes := by
  rw [decodeFrom_continuation bounds, if_pos (Nat.le_refl 1)]

theorem decodeFrom_more (needed : Nat) :
    decodeFrom (some ⟨needed + 2, code, low, high⟩) (continuation n :: bytes) =
      decodeFrom (some ⟨needed + 1, code * 64 + n % 64, 0x80, 0xBF⟩) bytes := by
  rw [decodeFrom_continuation bounds, if_neg (by omega)]
  rfl

end

/-! ## Whole sequences -/

section

variable {n : Nat} (bytes : List UInt8)

theorem decodeFrom_two (low : 0x80 ≤ n) (high : n < 0x800) :
    decodeFrom none (UInt8.ofNat (n / 64 % 32 + 192) :: continuation n :: bytes) =
      Char.ofNat n :: decodeFrom none bytes := by
  have begin_eq := begin?_two (n / 64 % 32) (by omega) (by omega)
  have code_eq : n / 64 % 32 * 64 + n % 64 = n := by omega
  rw [decodeFrom_none_cons begin_eq, decodeFrom_last (continuation_bounds n), code_eq]

/-- The second of three bytes is bounded so that no number is written too long and none is a
surrogate. -/
theorem decodeFrom_three (low : 0x800 ≤ n) (high : n < 0x10000)
    (surrogate_cases : n < 0xD800 ∨ 0xE000 ≤ n) :
    decodeFrom none (UInt8.ofNat (n / 4096 % 16 + 224) :: continuation (n / 64) ::
      continuation n :: bytes) = Char.ofNat n :: decodeFrom none bytes := by
  have begin_eq := begin?_three (n / 4096 % 16) (by omega)
  have bounds : (if n / 4096 % 16 = 0 then 0xA0 else 0x80) ≤ continuation (n / 64) ∧
      continuation (n / 64) ≤ (if n / 4096 % 16 = 13 then 0x9F else 0xBF) := by
    apply continuation_mem
    · split
      · change 160 ≤ n / 64 % 64 + 128
        omega
      · change 128 ≤ n / 64 % 64 + 128
        omega
    · split
      · change n / 64 % 64 + 128 ≤ 159
        omega
      · change n / 64 % 64 + 128 ≤ 191
        omega
  have code_eq : (n / 4096 % 16 * 64 + n / 64 % 64) * 64 + n % 64 = n := by omega
  rw [decodeFrom_none_cons begin_eq, decodeFrom_more bounds,
    decodeFrom_last (continuation_bounds n), code_eq]

/-- The second of four bytes is bounded so that no number is written too long and none is beyond the
last character. -/
theorem decodeFrom_four (low : 0x10000 ≤ n) (high : n < 0x110000) :
    decodeFrom none (UInt8.ofNat (n / 262144 % 8 + 240) :: continuation (n / 4096) ::
      continuation (n / 64) :: continuation n :: bytes) =
          Char.ofNat n :: decodeFrom none bytes := by
  have begin_eq := begin?_four (n / 262144 % 8) (by omega)
  have bounds : (if n / 262144 % 8 = 0 then 0x90 else 0x80) ≤ continuation (n / 4096) ∧
      continuation (n / 4096) ≤ (if n / 262144 % 8 = 4 then 0x8F else 0xBF) := by
    apply continuation_mem
    · split
      · change 144 ≤ n / 4096 % 64 + 128
        omega
      · change 128 ≤ n / 4096 % 64 + 128
        omega
    · split
      · change n / 4096 % 64 + 128 ≤ 143
        omega
      · change n / 4096 % 64 + 128 ≤ 191
        omega
  have code_eq : ((n / 262144 % 8 * 64 + n / 4096 % 64) * 64 + n / 64 % 64) * 64 + n % 64 = n := by
    omega
  rw [decodeFrom_none_cons begin_eq, decodeFrom_more bounds,
    decodeFrom_more (continuation_bounds (n / 64)), decodeFrom_last (continuation_bounds n),
      code_eq]

end

/-- A character is read from the bytes that it is written in, whatever follows them. -/
theorem decode_utf8EncodeChar (c : Char) (bytes : List UInt8) :
    decode (String.utf8EncodeChar c ++ bytes) = c :: decode bytes := by
  have valid : c.toNat < 0xD800 ∨ 0xDFFF < c.toNat ∧ c.toNat < 0x110000 := c.valid
  suffices read_eq : decode (String.utf8EncodeChar c ++ bytes) =
      Char.ofNat c.toNat :: decode bytes by
    rw [read_eq, Char.ofNat_toNat]
  rw [String.utf8EncodeChar]
  change decode ((if c.toNat ≤ 0x7F then _ else if c.toNat ≤ 0x7FF then _
    else if c.toNat ≤ 0xFFFF then _ else _) ++ bytes) = _
  -- the four lengths of a sequence, the shortest first
  split
  · exact decode_ofNat_cons (n := c.toNat) (by omega) bytes
  · split
    · exact decodeFrom_two (n := c.toNat) bytes (by omega) (by omega)
    · split
      · exact decodeFrom_three (n := c.toNat) bytes (by omega) (by omega) (by omega)
      · exact decodeFrom_four (n := c.toNat) bytes (by omega) (by omega)

/-- A text is read back from its bytes. -/
@[simp]
theorem decode_encode (text : List Char) : decode (encode text) = text := by
  induction text with
  | nil => rfl
  | cons c text ih => rw [encode, List.flatMap_cons, decode_utf8EncodeChar, ← encode, ih]

end Listing.Text.Utf8
