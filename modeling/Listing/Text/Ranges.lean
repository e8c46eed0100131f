/-!
# Sets of characters given by ranges

A property of characters is stored as an ascending list of closed code point ranges.  Membership
walks the list and stops at the first range that lies wholly above the character, so that the
common characters at the low end are decided after a comparison or two.
-/

namespace Listing.Text

/-- Whether a code point lies in one of the ranges of an ascending list. -/
def inRanges : List (Nat × Nat) → Nat → Bool
  | [], _ => false
  | (low, high) :: rest, code =>
      if code < low then false
      else if code ≤ high then true
      else inRanges rest code

end Listing.Text
