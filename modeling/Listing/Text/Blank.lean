import Listing.Text.Ranges

/-!
# Blank characters

Numbers and settings are read from text after blanks at both ends are dropped.  Blank is every
character with the Unicode property of white space; the zero width space is not one of them.
-/

namespace Listing.Text

/-- The white space code points. -/
def blankRanges : List (Nat × Nat) := [
  (0x9, 0xD), (0x20, 0x20), (0x85, 0x85), (0xA0, 0xA0), (0x1680, 0x1680), (0x2000, 0x200A),
  (0x2028, 0x2029), (0x202F, 0x202F), (0x205F, 0x205F), (0x3000, 0x3000)]

/-- Whether a character is white space. -/
def isBlank (c : Char) : Bool :=
  inRanges blankRanges c.toNat

/-- The text without the blanks at its start. -/
def trimStart (text : List Char) : List Char :=
  text.dropWhile isBlank

/-- The text without the blanks at its end. -/
def trimEnd (text : List Char) : List Char :=
  (text.reverse.dropWhile isBlank).reverse

/-- The text without the blanks at its ends. -/
def trim (text : List Char) : List Char :=
  trimEnd (trimStart text)

theorem trim_eq_self {text : List Char} (blank : ∀ c ∈ text, isBlank c = false) :
    trim text = text := by
  have drops_all : ∀ cs : List Char, (∀ c ∈ cs, isBlank c = false) → cs.dropWhile isBlank = cs := by
    intro cs allCs
    cases cs with
    | nil => rfl
    | cons c cs => simp [allCs c (by simp)]
  rw [trim, trimStart, drops_all text blank, trimEnd, drops_all _ (by simpa using blank),
    List.reverse_reverse]

end Listing.Text
