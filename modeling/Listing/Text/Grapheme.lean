import Listing.Text.Grapheme.Table

/-!
# User-perceived characters

A letter and the marks that follow it form one cluster.  The clusters are found with the rules that
can matter to a reader of letter case and of delimiters: marks, joiners and spacing marks continue a
cluster, prepended signs start one, a joiner connects two pictographs, and controls stand alone.
Syllable blocks and flag pairs hold neither cased letters nor delimiters, and are left as single
characters.
-/

namespace Listing.Text.Grapheme

/-- The zero width joiner. -/
def joiner : Char :=
  Char.ofNat 0x200D

/-- Whether a character continues the cluster before it: an extending mark, a skin tone or the
joiner. -/
def isExtend (c : Char) : Bool :=
  inRanges extendRanges c.toNat || (0x1F3FB ≤ c.toNat && c.toNat ≤ 0x1F3FF) || c == joiner

/-- Whether a character is a mark that takes room of its own beside the character before it. -/
def isSpacingMark (c : Char) : Bool :=
  inRanges spacingMarkRanges c.toNat

/-- Whether a character stands in front of the cluster that the next character starts. -/
def isPrepend (c : Char) : Bool :=
  inRanges prependRanges c.toNat

/-- Whether a character is a cluster by itself: a line break or another control. -/
def isControl (c : Char) : Bool :=
  inRanges controlRanges c.toNat

/-- Whether a character is a pictograph, which a joiner can link to another one. -/
def isPictograph (c : Char) : Bool :=
  inRanges pictographRanges c.toNat

/-- What has been read of the current cluster: its last character, and whether it is a pictograph
followed by extending marks only. -/
structure Reading where
  last : Char
  pictograph : Bool

/-- Whether the next character belongs to the cluster being read. -/
def Reading.joins (reading : Reading) (next : Char) : Bool :=
  if reading.last == '\r' && next == '\n' then true
  else if isControl reading.last || isControl next then false
  else if isExtend next || isSpacingMark next || isPrepend reading.last then true
  else reading.pictograph && reading.last == joiner && isPictograph next

/-- The reading after one more character of the same cluster. -/
def Reading.push (reading : Reading) (next : Char) : Reading :=
  ⟨next, isPictograph next || (reading.pictograph && isExtend next)⟩

/-- The clusters of a text, the first of which continues the one being read; its characters so far
are given in reverse. -/
def clustersFrom : Reading → List Char → List Char → List (List Char)
  | _, current, [] => [current.reverse]
  | reading, current, c :: rest =>
      if reading.joins c then clustersFrom (reading.push c) (c :: current) rest
      else current.reverse :: clustersFrom ⟨c, isPictograph c⟩ [c] rest

/-- The clusters of a text, in order. -/
def clusters : List Char → List (List Char)
  | [] => []
  | c :: rest => clustersFrom ⟨c, isPictograph c⟩ [c] rest

end Listing.Text.Grapheme
