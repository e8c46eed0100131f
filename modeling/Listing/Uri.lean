import Listing.Request
import Listing.Text.Split
import Listing.Text.Utf8

/-!
# Request targets

The target of a request is a path with an optional query, or an absolute address that contains one.
A fragment is cut off.  Targets with characters that cannot stand in one are refused; of the
characters that ought to be escaped most are let through, and escapes are not checked.
-/

namespace Listing

/-- The parts of a request target that a listing uses. -/
structure Uri where
  path : String
  query : Option String
deriving DecidableEq

namespace Uri

/-- Whether a character can stand in a path. -/
def isPathChar (c : Char) : Bool :=
  let n := c.toNat
  n == 0x21 || n == 0x22 || (0x24 ≤ n && n ≤ 0x3B) || n == 0x3D || (0x40 ≤ n && n ≤ 0x5F) ||
    (0x61 ≤ n && n ≤ 0x7E) || 0x80 ≤ n

/-- Whether a character can stand in a query. -/
def isQueryChar (c : Char) : Bool :=
  let n := c.toNat
  n == 0x21 || (0x24 ≤ n && n ≤ 0x3B) || n == 0x3D || (0x3F ≤ n && n ≤ 0x7E) || 0x80 ≤ n

/-- Whether a character can stand in a host with its port and user. -/
def isAuthorityChar (c : Char) : Bool :=
  c.isAlphanum || "!#$&'()*+,-./:;=?@[]_~%".toList.contains c

/-- Reads a path with an optional query. -/
def ofPathAndQuery? (text : List Char) : Option Uri :=
  let (kept, _) := Text.cutAt '#' text
  let (path, query) := Text.cutAt '?' kept
  if path.all isPathChar && (query.getD []).all isQueryChar then
    some ⟨String.ofList (if path.isEmpty then ['/'] else path), query.map String.ofList⟩
  else none

/-! ## Absolute addresses -/

/-- Whether a character can stand in the name of a scheme. -/
def isSchemeChar (c : Char) : Bool :=
  c.isAlphanum || c == '+' || c == '-' || c == '.'

/-- What follows the scheme of an absolute address; a scheme has at most 64 characters. -/
def afterScheme? (text : List Char) : Option (List Char) :=
  let scheme := text.takeWhile isSchemeChar
  match text.dropWhile isSchemeChar with
  | ':' :: '/' :: '/' :: rest => if scheme.length ≤ 64 then some rest else none
  | _ => none

/-- What has been seen of a host with its port and user. -/
structure Authority where
  colons : Nat := 0
  opened : Bool := false
  closed : Bool := false
  percent : Bool := false
  last : Option Char := none

/-- Takes up one more character.  Colons and percent signs before `@` and inside brackets do not
count. -/
def Authority.push? (authority : Authority) (c : Char) : Option Authority :=
  let next := { authority with last := some c }
  if !isAuthorityChar c then none
  else if c = ':' then
    if 8 ≤ authority.colons then none else some { next with colons := authority.colons + 1 }
  else if c = '[' then
    if authority.percent || authority.opened then none else some { next with opened := true }
  else if c = ']' then
    if !authority.opened || authority.closed then none
    else some { next with closed := true, colons := 0, percent := false }
  else if c = '@' then some { next with colons := 0, percent := false }
  else if c = '%' then some { next with percent := true }
  else some next

/-- Whether a host with its port and user is complete. -/
def Authority.isComplete (authority : Authority) : Bool :=
  authority.opened == authority.closed && authority.colons ≤ 1 && authority.last != some '@' &&
    !authority.percent

/-- Whether a text is a host with an optional port and user. -/
def isAuthority (text : List Char) : Bool :=
  match text.foldlM Authority.push? {} with
  | some authority => !text.isEmpty && authority.isComplete
  | none => false

/-- Ends a host with its port and user. -/
def endsAuthority (c : Char) : Bool :=
  c == '/' || c == '?' || c == '#'

/-- The largest number of bytes of a target. -/
def maxLength : Nat :=
  65534

/-- Reads a request target. -/
def parse? (text : String) : Option Uri :=
  let chars := text.toList
  if maxLength < text.utf8ByteSize then none
  else
    match chars with
    | [] => none
    | ['*'] => some ⟨"*", none⟩
    | '/' :: _ => ofPathAndQuery? chars
    | _ =>
        match afterScheme? chars with
        | some rest =>
            if isAuthority (rest.takeWhile (!endsAuthority ·)) then
              ofPathAndQuery? (rest.dropWhile (!endsAuthority ·))
            else none
        | none => if isAuthority chars && !chars.any endsAuthority then some ⟨"", none⟩ else none

/-- The target itself as a request: its query is taken as it stands. -/
def request (uri : Uri) : Request :=
  ⟨uri.query⟩

/-- The request that a handler reads from the target; question marks at the start of the query are
dropped. -/
def extracted (uri : Uri) : Request :=
  Request.ofRaw uri.query

end Uri

end Listing
