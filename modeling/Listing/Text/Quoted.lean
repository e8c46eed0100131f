import Listing.Text.Quoted.Table
import Listing.Text.Grapheme.Table

/-!
# Quoted text

Descriptions of parameters and queries show texts in double quotes.  The quote and the backslash
are escaped by a backslash, the common controls by a letter, and every other character that would
not be visible on its own, a combining mark for instance, by its code point.
-/

namespace Listing.Text

namespace Quoted

/-- The digits of a number in base sixteen, small letters above nine. -/
def hexDigits (n : Nat) : List Char :=
  Nat.toDigits 16 n

/-- Whether a character is shown as itself. -/
def isShown (c : Char) : Bool :=
  !inRanges Grapheme.extendRanges c.toNat && !inRanges hiddenRanges c.toNat

/-- The written form of one character. -/
def escape (c : Char) : List Char :=
  if c = '"' ∨ c = '\\' then ['\\', c]
  else if c = '\n' then ['\\', 'n']
  else if c = '\r' then ['\\', 'r']
  else if c = '\t' then ['\\', 't']
  else if c.toNat = 0 then ['\\', '0']
  else if isShown c then [c]
  else ['\\', 'u', Char.ofNat 0x7B] ++ hexDigits c.toNat ++ [Char.ofNat 0x7D]

end Quoted

/-- The text between double quotes. -/
def quoted (text : String) : String :=
  String.ofList ('"' :: text.toList.flatMap Quoted.escape ++ ['"'])

end Listing.Text
