import Listing.Text.LetterCase.Table

/-!
# Upper case and lower case

Case mapping of whole texts.  A character may map to several (`ß` becomes `SS`), and the one
mapping that looks at its surroundings is that of the capital sigma, which becomes `ς` at the end
of a word and `σ` elsewhere.
-/

namespace Listing.Text.LetterCase

/-- The form of a code point listed in ascending runs, if it is listed. -/
def lookupRun : List CaseRun → Nat → Option Nat
  | [], _ => none
  | run :: rest, code =>
      if code < run.first then none
      else if code ≤ run.last then
        if (code - run.first) % run.step = 0 then some (code + run.shift).toNat else none
      else lookupRun rest code

/-- The lower-case form of a character, its surroundings left aside. -/
def lowerChar (c : Char) : List Char :=
  if c = 'İ' then ['i', Char.ofNat 0x307]
  else [((lookupRun lowerRuns c.toNat).map Char.ofNat).getD c]

/-- The upper-case form of a character. -/
def upperChar (c : Char) : List Char :=
  if c.toNat < 0x80 then [c.toUpper]
  else
    match upperLong.lookup c.toNat with
    | some codes => codes.map Char.ofNat
    | none => [((lookupRun upperRuns c.toNat).map Char.ofNat).getD c]

/-- Whether a character is a cased letter. -/
def isCased (c : Char) : Bool :=
  inRanges casedRanges c.toNat

/-- Whether a character is passed over when the surroundings of a letter are examined. -/
def isCaseIgnorable (c : Char) : Bool :=
  inRanges caseIgnorableRanges c.toNat

/-- Whether the first character that is not passed over is a cased letter. -/
def meetsCased (text : List Char) : Bool :=
  match text.dropWhile isCaseIgnorable with
  | [] => false
  | c :: _ => isCased c

/-- Lower case of a text that stands after the given characters, nearest first. -/
def lowerAfter : List Char → List Char → List Char
  | _, [] => []
  | before, c :: rest =>
      (if c = 'Σ' then
        if meetsCased before && !meetsCased rest then ['ς'] else ['σ']
      else if c.toNat < 0x80 then [c.toLower]
      else lowerChar c) ++ lowerAfter (c :: before) rest

/-- The text in lower case. -/
def lower (text : List Char) : List Char :=
  lowerAfter [] text

/-- The text in upper case. -/
def upper (text : List Char) : List Char :=
  text.flatMap upperChar

end Listing.Text.LetterCase
