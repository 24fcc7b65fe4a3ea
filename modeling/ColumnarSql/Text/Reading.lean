/-
Module: ColumnarSql.Text.Reading
Purpose: Readers that consume the start of a text and report where they stop.
Main exports:
  Reading, Reader, Reader.mark, Reader.word, Reader.natural32, Reader.integer16,
  Reader.spacedComma, Reader.inParens, Reader.optional, Reader.separated
-/
import ColumnarSql.Text.Number
import ColumnarSql.Text.Quoted

namespace ColumnarSql.Text

/-!
A reader takes a text and either consumes a start of it or stops somewhere in
it.  A reader that stops may do so in two ways: it *rejects* the text, and the
caller may try something else, or it *aborts* the reading, and no caller may.
The place where a reader stops is the part of the text that remains there.
-/

/-- Result of a reader. -/
inductive Reading (α : Type) where
  | parsed (value : α) (rest : List Char)
  | rejected (place : List Char)
  | aborted (place : List Char)
deriving Repr, Inhabited, DecidableEq

/-- A function from a text to a reading of its start. -/
abbrev Reader (α : Type) := List Char → Reading α

/-- Continue after a successful reading. -/
def Reading.andThen {α β : Type} (r : Reading α) (next : α → Reader β) : Reading β :=
  match r with
  | .parsed value rest => next value rest
  | .rejected place => .rejected place
  | .aborted place => .aborted place

/-- Change the value of a successful reading. -/
def Reading.map {α β : Type} (f : α → β) (r : Reading α) : Reading β :=
  r.andThen fun value rest => .parsed (f value) rest

namespace Reader

/-- The text after its leading spacing. -/
def skipSpacing (s : List Char) : List Char :=
  s.dropWhile isSpacing

/-- Expect a given character. -/
def mark (c : Char) : Reader Unit
  | [] => .rejected []
  | head :: rest => if head == c then .parsed () rest else .rejected (head :: rest)

/-- Expect a given character with free spacing around it. -/
def spacedMark (c : Char) : Reader Unit := fun s =>
  (mark c (skipSpacing s)).andThen fun _ rest => .parsed () (skipSpacing rest)

/-- Expect a comma with free spacing around it. -/
def spacedComma : Reader Unit :=
  spacedMark ','

/-- Read a maximal run of word characters. -/
def word : Reader (List Char) := fun s =>
  let name := s.takeWhile isWordChar
  if name.isEmpty then .rejected s else .parsed name (s.dropWhile isWordChar)

/-- Read a digit string that writes a number of 32 bits.  A greater number is
rejected at its first digit. -/
def natural32 : Reader UInt32 := fun s =>
  let digits := s.takeWhile Char.isDigit
  if digits.isEmpty || Nat.pow 2 32 ≤ digitsValue digits then .rejected s
  else .parsed (UInt32.ofNat (digitsValue digits)) (s.dropWhile Char.isDigit)

/-- Read a digit string with an optional minus sign that writes a number of 16
bits.  A number out of range is rejected at its sign. -/
def integer16 : Reader Int16 := fun s =>
  let negative := s.head? == some '-'
  let unsigned := if negative then s.drop 1 else s
  let digits := unsigned.takeWhile Char.isDigit
  let value : Int := if negative then -(digitsValue digits : Int) else digitsValue digits
  if digits.isEmpty then .rejected unsigned
  else if value < -32768 || 32767 < value then .rejected s
  else .parsed (Int16.ofInt value) (unsigned.dropWhile Char.isDigit)

/-- Read a string literal. -/
def quotation : Reader String := fun s =>
  match readQuoted s with
  | .closed text rest => .parsed (String.ofList text) rest
  | .stopped place => .rejected place

/-- Read something between parentheses, with free spacing inside them. -/
def inParens {α : Type} (inner : Reader α) : Reader α := fun s =>
  (mark '(' s).andThen fun _ rest =>
    (inner (skipSpacing rest)).andThen fun value rest =>
      (mark ')' (skipSpacing rest)).map fun _ => value

/-- Read something if it is there; otherwise consume nothing. -/
def optional {α : Type} (inner : Reader α) : Reader (Option α) := fun s =>
  match inner s with
  | .parsed value rest => .parsed (some value) rest
  | .rejected _ => .parsed none s
  | .aborted place => .aborted place

/-- Read two things with a separator between them. -/
def separatedPair {α β : Type} (first : Reader α) (separator : Reader Unit) (second : Reader β) :
    Reader (α × β) := fun s =>
  (first s).andThen fun a rest =>
    (separator rest).andThen fun _ rest =>
      (second rest).map fun b => (a, b)

/-- Read further items, each after a comma.  The list ends before a comma that
no item follows. -/
def moreItems {α : Type} (item : Reader α) : Nat → Reader (List α)
  | 0, s => .parsed [] s
  | count + 1, s =>
      match spacedComma s with
      | .parsed _ afterComma =>
          match item afterComma with
          | .parsed value rest => (moreItems item count rest).map (value :: ·)
          | .rejected _ => .parsed [] s
          | .aborted place => .aborted place
      | .rejected _ => .parsed [] s
      | .aborted place => .aborted place

/-- Read one item or more, with commas between them. -/
def separated {α : Type} (item : Reader α) : Reader (List α) := fun s =>
  (item s).andThen fun value rest => (moreItems item rest.length rest).map (value :: ·)

end Reader

end ColumnarSql.Text
