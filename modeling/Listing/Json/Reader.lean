import Listing.Json.Parser

/-!
# Reading records

Values of a known shape are read straight from text, so that the first fault in the text decides
what is reported.  A record is written as an object, whose fields come in any order, or as the list
of its fields in their order.  Fields that the record does not have are passed over; a field that is
given twice or missing is a mismatch.
-/

namespace Listing.Json

/-! ## Single values -/

/-- The fault of a token that was read in full though another kind of value was wanted. -/
def afterToken {α : Type} : Except Fault α → Fault
  | .ok _ => .mismatch
  | .error fault => fault

/-- The fault of a text that starts with another kind of value than the one wanted.  A fault inside
a word, a number or a string is found first. -/
def unwanted : List Char → Fault
  | [] => .malformed
  | c :: rest =>
      if c = 'n' then afterToken (expect "ull".toList rest)
      else if c = 't' then afterToken (expect "rue".toList rest)
      else if c = 'f' then afterToken (expect "alse".toList rest)
      else if c = '-' ∨ c.isDigit then afterToken (scanNumber true (c :: rest))
      else if c = '"' then afterToken (stringBody true rest)
      else if c = '[' ∨ c.toNat = 0x7B then .mismatch
      else .malformed

/-- Reads a whole number. -/
def readInteger : Scan Int := fun text =>
  match skipBlanks text with
  | [] => .error .truncated
  | c :: rest =>
      if c = '-' ∨ c.isDigit then do
        match ← scanNumber true (c :: rest) with
        | (.integer n, rest) => return (n, rest)
        | (.float _, _) => throw .mismatch
      else .error (unwanted (c :: rest))

/-- Reads a whole number within bounds. -/
def readBetween (low high : Int) : Scan Int := fun text => do
  let (n, rest) ← readInteger text
  if low ≤ n ∧ n ≤ high then return (n, rest) else throw .mismatch

/-- Reads a natural number up to a bound. -/
def readNat (high : Nat) : Scan Nat := fun text => do
  let (n, rest) ← readBetween 0 high text
  return (n.toNat, rest)

/-- Reads a string. -/
def readString : Scan String := fun text =>
  match skipBlanks text with
  | [] => .error .truncated
  | '"' :: rest => stringBody true rest
  | rest => .error (unwanted rest)

/-- Reads a value or null. -/
def readOption {α : Type} (read : Scan α) : Scan (Option α) := fun text =>
  match skipBlanks text with
  | 'n' :: rest => do
      let (_, rest) ← expect "ull".toList rest
      return (none, rest)
  | rest => do
      let (value, rest) ← read rest
      return (some value, rest)

/-- Reads null. -/
def readNull : Scan Unit := fun text =>
  match skipBlanks text with
  | [] => .error .truncated
  | 'n' :: rest => expect "ull".toList rest
  | rest => .error (unwanted rest)

/-- Reads the colon between a name and its value. -/
def readColon : Scan Unit := fun text =>
  match skipBlanks text with
  | [] => .error .truncated
  | ':' :: rest => .ok ((), rest)
  | _ => .error .malformed

/-- Reads one of several words: as a string, or as an object whose only field is the word with the
value null. -/
def readWord {α : Type} (ofWord? : String → Option α) : Scan α := fun text =>
  let word : Scan α := fun text => do
    let (word, rest) ← readString text
    match ofWord? word with
    | some value => return (value, rest)
    | none => throw .mismatch
  match skipBlanks text with
  | [] => .error .truncated
  | c :: rest =>
      if c = '"' then word (c :: rest)
      else if c.toNat = 0x7B then do
        let (value, rest) ← word rest
        let (_, rest) ← readColon rest
        let (_, rest) ← readNull rest
        match skipBlanks rest with
        | [] => throw .truncated
        | d :: rest => if d.toNat = 0x7D then return (value, rest) else throw .malformed
      else .error .malformed

/-! ## Lists -/

/-- Moves to the next item of a list; absent if the closing bracket comes next, which is left in
place. -/
def nextItem? (first : Bool) (text : List Char) : Except Fault (Option (List Char)) :=
  match skipBlanks text with
  | [] => .error .truncated
  | ']' :: _ => .ok none
  | ',' :: rest =>
      if first then .ok (some (',' :: rest))
      else
        match skipBlanks rest with
        | [] => .error .truncated
        | ']' :: _ => .error .malformed
        | rest => .ok (some rest)
  | rest => if first then .ok (some rest) else .error .malformed

/-- Reads the closing bracket of a list. -/
def closeList : Scan Unit := fun text =>
  match skipBlanks text with
  | [] => .error .truncated
  | ']' :: rest => .ok ((), rest)
  | _ => .error .malformed

/-- Reads the items of a list, as many as the fuel allows, and the closing bracket. -/
def readItems {α : Type} (read : Scan α) : Nat → Bool → Scan (List α)
  | 0, _, _ => .error .truncated
  | fuel + 1, first, text => do
      match ← nextItem? first text with
      | none =>
          let (_, rest) ← closeList text
          return ([], rest)
      | some text =>
          let (item, rest) ← read text
          let (items, rest) ← readItems read fuel false rest
          return (item :: items, rest)

/-- Reads a list. -/
def readList {α : Type} (read : Scan α) : Scan (List α) := fun text =>
  match skipBlanks text with
  | [] => .error .truncated
  | '[' :: rest => readItems read (rest.length + 1) true rest
  | rest => .error (unwanted rest)

/-! ## Records -/

/-- A field of a record that is being read into a draft. -/
structure Field (Draft : Type) where
  name : String
  /-- Whether the draft has the field already. -/
  isSet : Draft → Bool
  /-- Reads the value into the draft. -/
  read : Draft → Scan Draft

/-- How a record is read. -/
structure Record (Draft α : Type) where
  fields : List (Field Draft)
  empty : Draft
  /-- Whether the list form may end early. -/
  mayEndEarly : Bool
  /-- The record, if the draft has all fields that it needs. -/
  finish? : Draft → Option α

namespace Record

variable {Draft α : Type}

/-- Reads one field by its name. -/
def readField (record : Record Draft α) (draft : Draft) (name : String) : Scan Draft := fun text =>
  match record.fields.find? (·.name == name) with
  | some field =>
      if field.isSet draft then .error .mismatch
      else do
        let (_, rest) ← readColon text
        field.read draft rest
  | none => do
      let (_, rest) ← readColon text
      let (_, rest) ← scan false rest
      return (draft, rest)

/-- Reads the fields of an object and its closing brace, as many as the fuel allows. -/
def readFields (record : Record Draft α) : Nat → Bool → Draft → Scan Draft
  | 0, _, _, _ => .error .truncated
  | fuel + 1, first, draft, text =>
      match skipBlanks text with
      | [] => .error .truncated
      | c :: rest =>
          if c.toNat = 0x7D then .ok (draft, rest)
          else
            let named : Except Fault (List Char) :=
              if first then .ok (c :: rest)
              else if c = ',' then .ok (skipBlanks rest)
              else .error .malformed
            match named with
            | .error fault => .error fault
            | .ok [] => .error .truncated
            | .ok ('"' :: rest) => do
                let (name, rest) ← stringBody true rest
                let (draft, rest) ← record.readField draft name rest
                record.readFields fuel false draft rest
            | .ok _ => .error .malformed

/-- Reads fields in their order from a list, up to its closing bracket. -/
def readInOrder (record : Record Draft α) : List (Field Draft) → Bool → Draft → Scan Draft
  | [], _, draft, text => .ok (draft, text)
  | field :: fields, first, draft, text => do
      match ← nextItem? first text with
      | none => if record.mayEndEarly then return (draft, text) else throw .mismatch
      | some text =>
          let (draft, rest) ← field.read draft text
          record.readInOrder fields false draft rest

/-- Ends the reading of a record. -/
def finish (record : Record Draft α) (draft : Draft) : Except Fault α :=
  match record.finish? draft with
  | some value => .ok value
  | none => .error .mismatch

/-- Reads a record. -/
def read (record : Record Draft α) : Scan α := fun text =>
  match skipBlanks text with
  | [] => .error .truncated
  | c :: rest =>
      if c = '[' then do
        let (draft, rest) ← record.readInOrder record.fields true record.empty rest
        let (_, rest) ← closeList rest
        let value ← record.finish draft
        return (value, rest)
      else if c.toNat = 0x7B then do
        let (draft, rest) ← record.readFields (rest.length + 1) true record.empty rest
        let value ← record.finish draft
        return (value, rest)
      else .error (unwanted (c :: rest))

end Record

/-- Reads a text that holds one value of a known shape. -/
def readAll {α : Type} (read : Scan α) (text : String) : Except Fault α := do
  let (value, rest) ← read text.toList
  atEnd rest
  return value

end Listing.Json
