import Listing.Json.Scanner

/-!
# Reading JSON values

A whole value is read with a bound on the number of nested steps that is taken from the length of
the text, so that it is never reached.
-/

namespace Listing.Json

mutual

/-- Reads a value. -/
def valueAux (strict : Bool) : Nat → Scan Json
  | 0, _ => .error .truncated
  | fuel + 1, text =>
      match skipBlanks text with
      | [] => .error .truncated
      | c :: rest =>
          if c = 'n' then do
            let (_, rest) ← expect "ull".toList rest
            return (.null, rest)
          else if c = 't' then do
            let (_, rest) ← expect "rue".toList rest
            return (.bool true, rest)
          else if c = 'f' then do
            let (_, rest) ← expect "alse".toList rest
            return (.bool false, rest)
          else if c = '-' ∨ c.isDigit then do
            let (n, rest) ← scanNumber strict (c :: rest)
            return (.number n, rest)
          else if c = '"' then do
            let (s, rest) ← stringBody strict rest
            return (.string s, rest)
          else if c = '[' then
            match skipBlanks rest with
            | ']' :: rest => return (.array [], rest)
            | rest => do
                let (items, rest) ← itemsAux strict fuel rest
                return (.array items, rest)
          else if c.toNat = 0x7B then
            match skipBlanks rest with
            | [] => throw .truncated
            | d :: rest =>
                if d.toNat = 0x7D then return (.object [], rest)
                else do
                  let (fields, rest) ← fieldsAux strict fuel (d :: rest)
                  return (ofFields fields, rest)
          else .error .malformed

/-- Reads the items of an array up to its closing bracket. -/
def itemsAux (strict : Bool) : Nat → Scan (List Json)
  | 0, _ => .error .truncated
  | fuel + 1, text => do
      let (item, rest) ← valueAux strict fuel text
      match skipBlanks rest with
      | [] => throw .truncated
      | ',' :: rest =>
          let (items, rest) ← itemsAux strict fuel rest
          return (item :: items, rest)
      | ']' :: rest => return ([item], rest)
      | _ => throw .malformed

/-- Reads the fields of an object up to its closing brace. -/
def fieldsAux (strict : Bool) : Nat → Scan (List (String × Json))
  | 0, _ => .error .truncated
  | fuel + 1, text =>
      match skipBlanks text with
      | [] => throw .truncated
      | '"' :: rest => do
          let (name, rest) ← stringBody strict rest
          match skipBlanks rest with
          | [] => throw .truncated
          | ':' :: rest =>
              let (value, rest) ← valueAux strict fuel rest
              match skipBlanks rest with
              | [] => throw .truncated
              | c :: rest =>
                  if c = ',' then
                    let (fields, rest) ← fieldsAux strict fuel rest
                    return ((name, value) :: fields, rest)
                  else if c.toNat = 0x7D then return ([(name, value)], rest)
                  else throw .malformed
          | _ => throw .malformed
      | _ => throw .malformed

end

/-- Reads a value from the start of a text. -/
def scan (strict : Bool) : Scan Json := fun text =>
  valueAux strict (2 * text.length + 1) text

/-- Only blanks may follow a value. -/
def atEnd (text : List Char) : Except Fault Unit :=
  if (skipBlanks text).isEmpty then .ok () else .error .malformed

/-- Reads a text that holds one value. -/
def parse (text : List Char) : Except Fault Json := do
  let (value, rest) ← scan true text
  atEnd rest
  return value

end Listing.Json
