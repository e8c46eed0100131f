import Listing.Value

/-!
# Statements

A statement is a text with placeholders and the values bound to them, in the order of the
placeholders.  It is built from fragments: texts, and values that leave a placeholder behind.  The
text therefore depends on the values only through their number (`textOf_congr`).
-/

namespace Listing.Sql

/-- A family of databases. -/
inductive Dialect where
  | sqlite
  | mysql
  | postgres
deriving DecidableEq, Inhabited

/-- A value bound to a placeholder. -/
inductive Datum where
  | bool (b : Bool)
  /-- A signed number of 32 bits. -/
  | int (n : Int)
  /-- A signed number of 64 bits. -/
  | bigInt (n : Int)
  /-- An unsigned number of 64 bits. -/
  | bigUnsigned (n : Nat)
  | double (x : Float)
  | text (s : String)
deriving Inhabited

namespace Datum

/-- A filter value as it is bound; a list is bound as the text that shows it. -/
def ofValue : Value → Datum
  | .bool b => bool b
  | .integer n => bigInt n
  | .float x => double x
  | .text s => text s
  | .list items => text (Value.list items).display

/-- A text bound by its looks: as a truth value or a number if it is written as one. -/
def loose (raw : String) : Datum :=
  match Value.scalar raw with
  | .bool b => bool b
  | .integer n => bigInt n
  | .float x => double x
  | _ => text raw

end Datum

/-- A part of a statement. -/
inductive Fragment where
  | text (s : String)
  | bind (value : Datum)
deriving Inhabited

/-- A text with placeholders and the values bound to them. -/
structure Statement where
  text : String
  values : List Datum
deriving Inhabited

namespace Dialect

/-- The placeholder of the value at a position, counted from 1. -/
def placeholder (dialect : Dialect) (position : Nat) : String :=
  match dialect with
  | postgres => "$" ++ toString position
  | sqlite | mysql => "?"

/-- The mark around names. -/
def quote : Dialect → Char
  | mysql => Char.ofNat 0x60
  | sqlite | postgres => '"'

/-- A name between quotation marks; a mark inside the name is doubled. -/
def quoteName (dialect : Dialect) (name : String) : String :=
  let mark := dialect.quote
  String.ofList
    (mark :: name.toList.flatMap (fun c => if c = mark then [mark, mark] else [c]) ++ [mark])

end Dialect

namespace Fragment

/-- The text of fragments whose first value has the given position. -/
def textFrom (dialect : Dialect) : Nat → List Fragment → String
  | _, [] => ""
  | position, .text s :: rest => s ++ textFrom dialect position rest
  | position, .bind _ :: rest =>
      dialect.placeholder position ++ textFrom dialect (position + 1) rest

/-- The text of fragments. -/
def textOf (dialect : Dialect) (fragments : List Fragment) : String :=
  textFrom dialect 1 fragments

/-- The values of fragments, in order. -/
def valuesOf (fragments : List Fragment) : List Datum :=
  fragments.filterMap fun
    | .text _ => none
    | .bind value => some value

/-- The text of a fragment, or nothing where a value is bound. -/
def shape : Fragment → Option String
  | .text s => some s
  | .bind _ => none

/-- Fragments that differ in bound values only have the same text. -/
theorem textFrom_congr (dialect : Dialect) {fragments others : List Fragment} (position : Nat)
    (shape_eq : fragments.map shape = others.map shape) :
    textFrom dialect position fragments = textFrom dialect position others := by
  induction fragments generalizing others position with
  | nil =>
      cases others with
      | nil => rfl
      | cons other others => simp at shape_eq
  | cons fragment fragments ih =>
      cases others with
      | nil => simp at shape_eq
      | cons other others =>
          simp only [List.map_cons, List.cons.injEq] at shape_eq
          rcases shape_eq with ⟨head_eq, tail_eq⟩
          cases fragment <;> cases other <;>
            simp only [shape, reduceCtorEq, Option.some.injEq] at head_eq
          · simp [textFrom, head_eq, ih position tail_eq]
          · simp [textFrom, ih (position + 1) tail_eq]

theorem textOf_congr (dialect : Dialect) {fragments others : List Fragment}
    (shape_eq : fragments.map shape = others.map shape) :
    textOf dialect fragments = textOf dialect others :=
  textFrom_congr dialect 1 shape_eq

@[simp]
theorem valuesOf_append (fragments others : List Fragment) :
    valuesOf (fragments ++ others) = valuesOf fragments ++ valuesOf others := by
  simp [valuesOf]

theorem valuesOf_text_cons (s : String) (fragments : List Fragment) :
    valuesOf (.text s :: fragments) = valuesOf fragments :=
  rfl

/-- In two portions of fragments the placeholders of the second go on where the first stops. -/
theorem textFrom_append (dialect : Dialect) (position : Nat) (fragments others : List Fragment) :
    textFrom dialect position (fragments ++ others) =
      textFrom dialect position fragments ++
        textFrom dialect (position + (valuesOf fragments).length) others := by
  induction fragments generalizing position with
  | nil => simp [textFrom, valuesOf]
  | cons fragment fragments ih =>
      cases fragment with
      | text s => simp [textFrom, valuesOf, ih, String.append_assoc]
      | bind value =>
          simp [textFrom, valuesOf, ih, String.append_assoc, Nat.add_assoc, Nat.add_comm 1]

/-- Fragments with separators between neighbours. -/
def separated (separator : String) : List (List Fragment) → List Fragment
  | [] => []
  | [piece] => piece
  | piece :: next :: rest => piece ++ .text separator :: separated separator (next :: rest)

theorem valuesOf_separated (separator : String) (pieces : List (List Fragment)) :
    valuesOf (separated separator pieces) = pieces.flatMap valuesOf := by
  fun_induction separated separator pieces with
  | case1 => rfl
  | case2 piece => simp
  | case3 piece next rest ih =>
      rw [valuesOf_append, valuesOf_text_cons, ih]
      exact List.flatMap_cons.symm

end Fragment

/-- The statement made of fragments. -/
def Statement.ofFragments (dialect : Dialect) (fragments : List Fragment) : Statement :=
  ⟨Fragment.textOf dialect fragments, Fragment.valuesOf fragments⟩

end Listing.Sql
