import Listing.Text.Split
import Listing.Text.Utf8

/-!
# Form encoding

Query strings carry a list of name and value pairs in the form encoding of the web: pairs are
separated by `&`, a name ends at the first `=`, a plus sign is a blank, and any byte may be written
as a percent sign with two hexadecimal digits.  Reading never fails: a percent sign without two
digits stands for itself, and bytes that form no text are replaced.
-/

namespace Listing.Text.FormUrlencoded

/-! ## Reading -/

/-- The value of a hexadecimal digit. -/
def hexValue? (b : UInt8) : Option UInt8 :=
  if 0x30 ≤ b && b ≤ 0x39 then some (b - 0x30)
  else if 0x41 ≤ b && b ≤ 0x46 then some (b - 0x37)
  else if 0x61 ≤ b && b ≤ 0x66 then some (b - 0x57)
  else none

/-- The byte written by two hexadecimal digits. -/
def hexByte? (high low : UInt8) : Option UInt8 :=
  match hexValue? high, hexValue? low with
  | some h, some l => some (16 * h + l)
  | _, _ => none

/-- Replaces every complete escape by the byte it stands for. -/
def percentDecode : List UInt8 → List UInt8
  | [] => []
  | [a] => [a]
  | [a, b] => [a, b]
  | a :: b :: c :: rest =>
      if a = 0x25 then
        match hexByte? b c with
        | some byte => byte :: percentDecode rest
        | none => a :: percentDecode (b :: c :: rest)
      else a :: percentDecode (b :: c :: rest)

/-- A plus sign stands for a blank. -/
def plusToBlank (c : Char) : Char :=
  if c = '+' then ' ' else c

/-- The text that a name or a value stands for. -/
def decode (text : List Char) : List Char :=
  Utf8.decode (percentDecode (Utf8.encode (text.map plusToBlank)))

/-- The name and the value of one piece of a query string. -/
def decodePair (piece : List Char) : List Char × List Char :=
  let (name, value) := cutAt '=' piece
  (decode name, decode (value.getD []))

/-- The pairs of a query string, in order; empty pieces are passed over. -/
def parse (query : List Char) : List (List Char × List Char) :=
  ((splitOn '&' query).filter (!·.isEmpty)).map decodePair

/-! ## Writing -/

/-- Whether a byte is written as itself. -/
def isPlain (b : UInt8) : Bool :=
  (0x30 ≤ b && b ≤ 0x39) || (0x41 ≤ b && b ≤ 0x5A) || (0x61 ≤ b && b ≤ 0x7A) ||
    b == 0x2A || b == 0x2D || b == 0x2E || b == 0x5F

/-- The hexadecimal digit of a number below sixteen. -/
def hexDigit (n : UInt8) : Char :=
  if n < 10 then Char.ofNat (0x30 + n.toNat) else Char.ofNat (0x37 + n.toNat)

/-- The written form of one byte. -/
def encodeByte (b : UInt8) : List Char :=
  if isPlain b then [Char.ofNat b.toNat]
  else if b = 0x20 then ['+']
  else ['%', hexDigit (b / 16), hexDigit (b % 16)]

/-- The written form of a name or a value. -/
def encode (text : List Char) : List Char :=
  (Utf8.encode text).flatMap encodeByte

/-- The written form of a pair. -/
def encodePair (pair : List Char × List Char) : List Char :=
  encode pair.1 ++ '=' :: encode pair.2

/-- A query string that carries the given pairs. -/
def serialize (pairs : List (List Char × List Char)) : List Char :=
  join '&' (pairs.map encodePair)

end Listing.Text.FormUrlencoded
