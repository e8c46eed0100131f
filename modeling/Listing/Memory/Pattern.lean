import Listing.Text.Split

/-!
# Patterns

In a pattern a percent sign stands for any characters, none included; everything else stands for
itself.  The pieces between the signs are looked for from the left, each behind the one before it.
-/

namespace Listing.Memory.Pattern

/-- Whether a text consists of any characters followed by the given pieces in order, with any
characters between them and the last piece at its end. -/
def endsWithPieces : List (List Char) → List Char → Bool
  | [], _ => true
  | [last], text => last.isSuffixOf text
  | piece :: next :: rest, text =>
      match Text.afterFirst? piece text with
      | some behind => endsWithPieces (next :: rest) behind
      | none => false

/-- Whether a text matches a pattern. -/
def accepts (pattern text : List Char) : Bool :=
  match Text.splitOn '%' pattern with
  | [] => false
  | first :: rest =>
      match Text.after? first text with
      | none => false
      | some behind => if rest.isEmpty then behind.isEmpty else endsWithPieces rest behind

end Listing.Memory.Pattern
