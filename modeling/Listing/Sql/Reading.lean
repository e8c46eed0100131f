import Listing.Sql.Statement

/-!
# Reading the text of a statement

A reader of a statement meets names between quotation marks and, outside of them, the signs that
placeholders start with.  `Dialect.placeholders` counts those signs in a text.  A text is inert if
nothing in it counts and if it does not end inside a name.  Names are inert, whatever they are
(`Dialect.inert_quoteName`): a mark or a sign inside a name is read as part of the name, because
marks are doubled there.
-/

namespace Listing.Sql

namespace Dialect

/-- The sign that a placeholder starts with. -/
def sign : Dialect → Char
  | postgres => '$'
  | sqlite | mysql => '?'

/-- What is known after a part of a text was read. -/
structure Reading where
  /-- Whether the text goes on inside a name. -/
  inName : Bool
  /-- The number of placeholders that were met. -/
  placeholders : Nat
deriving DecidableEq, Inhabited

/-- Reads one character.  A doubled mark leaves a name and enters it again. -/
def read (dialect : Dialect) (reading : Reading) (c : Char) : Reading :=
  if c = dialect.quote then { reading with inName := !reading.inName }
  else if c = dialect.sign ∧ reading.inName = false then
    { reading with placeholders := reading.placeholders + 1 }
  else reading

/-- Reads a text. -/
def readAll (dialect : Dialect) (reading : Reading) (text : String) : Reading :=
  text.toList.foldl dialect.read reading

/-- The number of placeholders in a text. -/
def placeholders (dialect : Dialect) (text : String) : Nat :=
  (dialect.readAll ⟨false, 0⟩ text).placeholders

variable {dialect : Dialect}

theorem readAll_append (reading : Reading) (text other : String) :
    dialect.readAll reading (text ++ other) =
      dialect.readAll (dialect.readAll reading text) other := by
  simp [readAll]

/-! ## Inert texts -/

/-- Outside of names a text neither shows a placeholder nor ends inside a name. -/
def Inert (dialect : Dialect) (text : String) : Prop :=
  ∀ count, dialect.readAll ⟨false, count⟩ text = ⟨false, count⟩

theorem Inert.append {text other : String} (first : dialect.Inert text)
    (second : dialect.Inert other) : dialect.Inert (text ++ other) := by
  intro count
  rw [readAll_append, first, second]

/-- A character that has no meaning to the reader in any dialect. -/
def isPlain (c : Char) : Bool :=
  c ≠ '"' && c ≠ Char.ofNat 0x60 && c ≠ '?' && c ≠ '$'

theorem read_of_isPlain {c : Char} (plain : isPlain c) (reading : Reading) :
    dialect.read reading c = reading := by
  simp only [isPlain, ne_eq, decide_not, Bool.and_eq_true, Bool.not_eq_eq_eq_not, Bool.not_true,
    decide_eq_false_iff_not] at plain
  obtain ⟨⟨⟨noQuote, noMark⟩, noQuestion⟩, noDollar⟩ := plain
  cases dialect <;> simp [read, quote, sign, *]

theorem inert_of_isPlain {text : String} (plain : text.toList.all isPlain) :
    dialect.Inert text := by
  intro count
  rw [readAll]
  generalize text.toList = chars at plain
  induction chars with
  | nil => rfl
  | cons c chars ih =>
      rw [List.all_cons, Bool.and_eq_true] at plain
      rw [List.foldl_cons, read_of_isPlain plain.1, ih plain.2]

/-- Inside a name the characters of the name are passed over, doubled marks included. -/
theorem foldl_read_inName (count : Nat) (chars : List Char) :
    (chars.flatMap fun c => if c = dialect.quote then [dialect.quote, dialect.quote] else [c]).foldl
        dialect.read ⟨true, count⟩ = ⟨true, count⟩ := by
  induction chars with
  | nil => rfl
  | cons c chars ih =>
      rw [List.flatMap_cons, List.foldl_append]
      split
      · simpa [read] using ih
      · rename_i noQuote
        simpa [read, noQuote] using ih

theorem inert_quoteName (name : String) : dialect.Inert (dialect.quoteName name) := by
  intro count
  have opened : dialect.read ⟨false, count⟩ dialect.quote = ⟨true, count⟩ := by simp [read]
  have closed : dialect.read ⟨true, count⟩ dialect.quote = ⟨false, count⟩ := by simp [read]
  simp [readAll, quoteName, opened, foldl_read_inName, closed]

end Dialect

namespace Fragment

variable {dialect : Dialect}

/-- The texts among fragments are inert. -/
def Inert (dialect : Dialect) (fragments : List Fragment) : Prop :=
  ∀ s, .text s ∈ fragments → dialect.Inert s

@[simp]
theorem inert_nil : Inert dialect [] :=
  fun _ absent => absurd absent List.not_mem_nil

@[simp]
theorem inert_text_cons {s : String} {fragments : List Fragment} :
    Inert dialect (.text s :: fragments) ↔ dialect.Inert s ∧ Inert dialect fragments := by
  simp [Inert, or_imp, forall_and]

@[simp]
theorem inert_bind_cons {value : Datum} {fragments : List Fragment} :
    Inert dialect (.bind value :: fragments) ↔ Inert dialect fragments := by
  simp [Inert]

@[simp]
theorem inert_append {fragments others : List Fragment} :
    Inert dialect (fragments ++ others) ↔ Inert dialect fragments ∧ Inert dialect others := by
  simp [Inert, or_imp, forall_and]

end Fragment

end Listing.Sql
