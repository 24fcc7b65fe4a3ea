/-
Module: ColumnarSql.Json.Reader
Purpose: Reading JSON texts.
Main exports:
  Json.parse?
-/
import ColumnarSql.Json.Basic
import ColumnarSql.Text.Hexadecimal
import ColumnarSql.Text.Number

namespace ColumnarSql.Json

open Text

/-!
The reader keeps what decoding needs to know: the order of fields, fields that
occur twice, and whether a number is written as an integer.  Its fuel is the
length of the text, of which every step consumes something.

A number with a fraction or an exponent becomes the double nearest to it, with
ties to even.  Readers that multiply the digits by a power of ten in floating
point trade this for speed, and may give a neighbour of that double: for
`124.36087961897213` they may give the double of `124.36087961897212`.
-/

/-- The text after its leading blanks. -/
def skipBlanks (s : List Char) : List Char :=
  s.dropWhile isSpacing

/-- Read the code point after a backslash and `u`.  A surrogate must come in a
pair. -/
def takeCodePoint (s : List Char) : Option (Char × List Char) := do
  let (unit, rest) ← takeHex 4 0 s
  if 0xD800 ≤ unit && unit < 0xDC00 then
    match rest with
    | '\\' :: 'u' :: rest => do
        let (low, rest) ← takeHex 4 0 rest
        if 0xDC00 ≤ low && low < 0xE000 then
          some (Char.ofNat (0x10000 + (unit - 0xD800) * 0x400 + (low - 0xDC00)), rest)
        else
          none
    | _ => none
  else if 0xDC00 ≤ unit && unit < 0xE000 then
    none
  else
    some (Char.ofNat unit, rest)

/-- The character that a letter after a backslash stands for. -/
def escapedChar? (c : Char) : Option Char :=
  if c == '"' || c == '\\' || c == '/' then some c
  else if c == 'b' then some '\x08'
  else if c == 'f' then some '\x0c'
  else if c == 'n' then some '\n'
  else if c == 'r' then some '\r'
  else if c == 't' then some '\t'
  else none

/-- Read the rest of a string after its opening quote. -/
def takeString : (fuel : Nat) → List Char → Option (List Char × List Char)
  | 0, _ => none
  | fuel + 1, s =>
      match s with
      | [] => none
      | '"' :: rest => some ([], rest)
      | '\\' :: 'u' :: rest => do
          let (c, rest) ← takeCodePoint rest
          let (text, rest) ← takeString fuel rest
          return (c :: text, rest)
      | '\\' :: letter :: rest => do
          let c ← escapedChar? letter
          let (text, rest) ← takeString fuel rest
          return (c :: text, rest)
      | c :: rest =>
          if c.toNat < 32 || c == '\\' then
            none
          else do
            let (text, rest) ← takeString fuel rest
            return (c :: text, rest)

/-- A number unless it is too large for its format. -/
def finite? (x : Double) : Option Json :=
  if x.isFinite then some (.float x) else none

/-- An integer of at most 64 bits, or the nearest floating-point number if it
has more.  Minus zero is a floating-point number. -/
def ofDigits? (negative : Bool) (n : Nat) : Option Json :=
  if negative then
    if n == 0 then some (.float (.zero true))
    else if n ≤ Nat.pow 2 63 then some (.integer (-(n : Int)))
    else finite? (.ofScaled true n 0)
  else if n < Nat.pow 2 64 then some (.integer n)
  else finite? (.ofScaled false n 0)

/-- Read the fraction part of a number: nothing, or a point with digits. -/
def takeFraction (s : List Char) : Option (List Char × List Char) :=
  match s with
  | '.' :: rest =>
      let digits := rest.takeWhile Char.isDigit
      if digits.isEmpty then none else some (digits, rest.dropWhile Char.isDigit)
  | _ => some ([], s)

/-- Read the exponent of a number: nothing, or a mark with an optional sign and
digits. -/
def takeExponent (s : List Char) : Option (Option Int × List Char) :=
  match s with
  | [] => some (none, [])
  | c :: rest =>
      if c == 'e' || c == 'E' then
        let negative := rest.head? == some '-'
        let unsigned := if negative || rest.head? == some '+' then rest.drop 1 else rest
        let digits := unsigned.takeWhile Char.isDigit
        if digits.isEmpty then
          none
        else
          let n : Int := digitsValue digits
          some (some (if negative then -n else n), unsigned.dropWhile Char.isDigit)
      else
        some (none, c :: rest)

/-- Read a number after its sign.  Zero is the only number that starts with a
zero digit, and a number too large for its format is refused.  What is not an
integer is rounded correctly. -/
def takeMagnitude (negative : Bool) (s : List Char) : Option (Json × List Char) := do
  let whole := s.takeWhile Char.isDigit
  if whole.isEmpty || (whole.head? == some '0' && 1 < whole.length) then
    none
  else
    let (fraction, rest) ← takeFraction (s.dropWhile Char.isDigit)
    let (exponent, rest) ← takeExponent rest
    if fraction.isEmpty && exponent.isNone then
      let json ← ofDigits? negative (digitsValue whole)
      return (json, rest)
    else
      let json ← finite? (Double.ofScaled negative (digitsValue (whole ++ fraction))
        (exponent.getD 0 - fraction.length))
      return (json, rest)

/-- Read a number. -/
def takeNumber : List Char → Option (Json × List Char)
  | '-' :: rest => takeMagnitude true rest
  | s => takeMagnitude false s

/-- Read one of the words that are values. -/
def takeWord (s : List Char) : Option (Json × List Char) :=
  match dropStart? "null".toList s with
  | some rest => some (.null, rest)
  | none =>
      match dropStart? "true".toList s with
      | some rest => some (.bool true, rest)
      | none => (dropStart? "false".toList s).map fun rest => (.bool false, rest)

mutual

/-- Read a value.  Arrays and objects nest at most `depth` levels deep. -/
def takeValue : (fuel : Nat) → (depth : Nat) → List Char → Option (Json × List Char)
  | 0, _, _ => none
  | fuel + 1, depth, s =>
      match skipBlanks s with
      | [] => none
      | '[' :: rest =>
          if depth == 0 then
            none
          else
            match skipBlanks rest with
            | ']' :: rest => some (.array [], rest)
            | rest => do
                let (items, rest) ← takeItems fuel (depth - 1) rest
                return (.array items, rest)
      | '\x7b' :: rest =>
          if depth == 0 then
            none
          else
            match skipBlanks rest with
            | '\x7d' :: rest => some (.object [], rest)
            | rest => do
                let (fields, rest) ← takeFields fuel (depth - 1) rest
                return (.object fields, rest)
      | '"' :: rest => do
          let (text, rest) ← takeString (rest.length + 1) rest
          return (.string (String.ofList text), rest)
      | c :: rest =>
          if c == '-' || c.isDigit then takeNumber (c :: rest) else takeWord (c :: rest)

/-- Read the items of an array up to its end. -/
def takeItems : (fuel : Nat) → (depth : Nat) → List Char → Option (List Json × List Char)
  | 0, _, _ => none
  | fuel + 1, depth, s => do
      let (item, rest) ← takeValue fuel depth s
      match skipBlanks rest with
      | ',' :: rest => do
          let (items, rest) ← takeItems fuel depth rest
          return (item :: items, rest)
      | ']' :: rest => some ([item], rest)
      | _ => none

/-- Read the fields of an object up to its end. -/
def takeFields : (fuel : Nat) → (depth : Nat) → List Char →
    Option (List (String × Json) × List Char)
  | 0, _, _ => none
  | fuel + 1, depth, s =>
      match skipBlanks s with
      | '"' :: rest => do
          let (name, rest) ← takeString (rest.length + 1) rest
          match skipBlanks rest with
          | ':' :: rest => do
              let (value, rest) ← takeValue fuel depth rest
              let field := (String.ofList name, value)
              match skipBlanks rest with
              | ',' :: rest => do
                  let (fields, rest) ← takeFields fuel depth rest
                  return (field :: fields, rest)
              | '\x7d' :: rest => some ([field], rest)
              | _ => none
          | _ => none
      | _ => none

end

/-- Read a text that is one value, in which arrays and objects nest at most
`depth` levels deep. -/
def parse? (depth : Nat) (text : String) : Option Json :=
  let s := text.toList
  match takeValue (2 * s.length + 2) depth s with
  | some (json, rest) => if (skipBlanks rest).isEmpty then some json else none
  | none => none

end ColumnarSql.Json
