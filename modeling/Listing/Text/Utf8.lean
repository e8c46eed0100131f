/-!
# Reading bytes as text

Text arrives as bytes that need not be well formed.  Every longest beginning of a code unit
sequence that cannot be continued is read as one replacement character, and all well-formed
sequences around it survive.
-/

namespace Listing.Text.Utf8

/-- The character that stands for what could not be read. -/
def replacement : Char :=
  Char.ofNat 0xFFFD

/-- The bytes of a text. -/
def encode (text : List Char) : List UInt8 :=
  text.flatMap String.utf8EncodeChar

/-- A sequence that has been begun: how many bytes it still needs, the bits read so far, and the
bounds of the next byte. -/
structure Pending where
  needed : Nat
  code : Nat
  low : UInt8
  high : UInt8
deriving DecidableEq

/-- The sequence that a first byte begins, if it begins one of several bytes.  The bounds of the
second byte exclude code points written too long, surrogates and code points beyond the last. -/
def begin? (b : UInt8) : Option Pending :=
  if 0xC2 ≤ b && b ≤ 0xDF then some ⟨1, b.toNat % 32, 0x80, 0xBF⟩
  else if b = 0xE0 then some ⟨2, 0, 0xA0, 0xBF⟩
  else if b = 0xED then some ⟨2, 13, 0x80, 0x9F⟩
  else if 0xE1 ≤ b && b ≤ 0xEF then some ⟨2, b.toNat % 16, 0x80, 0xBF⟩
  else if b = 0xF0 then some ⟨3, 0, 0x90, 0xBF⟩
  else if b = 0xF4 then some ⟨3, 4, 0x80, 0x8F⟩
  else if 0xF1 ≤ b && b ≤ 0xF3 then some ⟨3, b.toNat % 8, 0x80, 0xBF⟩
  else none

/-- What a byte outside of any sequence gives at once: an ASCII character, or a replacement if it
begins no sequence. -/
def single (b : UInt8) : List Char :=
  if b < 0x80 then [Char.ofNat b.toNat]
  else if (begin? b).isSome then []
  else [replacement]

/-- The bytes as text, with a sequence that was begun before them. -/
def decodeFrom : Option Pending → List UInt8 → List Char
  | none, [] => []
  | some _, [] => [replacement]
  | none, b :: rest => single b ++ decodeFrom (begin? b) rest
  | some pending, b :: rest =>
      if pending.low ≤ b && b ≤ pending.high then
        let code := pending.code * 64 + b.toNat % 64
        if pending.needed ≤ 1 then Char.ofNat code :: decodeFrom none rest
        else decodeFrom (some ⟨pending.needed - 1, code, 0x80, 0xBF⟩) rest
      else replacement :: (single b ++ decodeFrom (begin? b) rest)

/-- The bytes as text, each sequence that breaks off read as one replacement character. -/
def decode (bytes : List UInt8) : List Char :=
  decodeFrom none bytes

end Listing.Text.Utf8
