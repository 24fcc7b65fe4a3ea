/-
Module: ColumnarSql.Toml.Reader
Purpose: Reading TOML texts.
Main exports:
  Toml.parse?
-/
import ColumnarSql.Calendar.Basic
import ColumnarSql.Text.Blank
import ColumnarSql.Text.Hexadecimal
import ColumnarSql.Text.Number
import ColumnarSql.Toml.Basic

namespace ColumnarSql.Toml

open Text

/-!
A document is read line by line into `Line`s, which `assemble?` puts together.
Functions named `take…` read a part at the start of a text and give the rest of
it; those with fuel consume at least one character a step.
-/

/-! ### Blanks, comments and line ends -/

/-- The text after its leading spaces and tabs. -/
def skipSpaces (s : List Char) : List Char :=
  s.dropWhile fun c => c == ' ' || c == '\t'

/-- A character that may stand in comments and strings: no control character
but the tab. -/
def isTextChar (c : Char) : Bool :=
  c == '\t' || (32 ≤ c.toNat && c.toNat != 127)

/-- Read a line end. -/
def takeNewline : List Char → Option (List Char)
  | '\n' :: rest => some rest
  | '\r' :: '\n' :: rest => some rest
  | _ => none

/-- The text after a comment, if there is one. -/
def skipComment : List Char → List Char
  | '#' :: rest => rest.dropWhile isTextChar
  | s => s

/-- Read what may follow at the end of a line. -/
def takeLineEnd (s : List Char) : Option (List Char) :=
  match skipComment (skipSpaces s) with
  | [] => some []
  | rest => takeNewline rest

/-- The text after blanks, line ends and comments. -/
def skipFiller : (fuel : Nat) → List Char → List Char
  | 0, s => s
  | fuel + 1, s =>
      let start := skipSpaces s
      match takeNewline (skipComment start) with
      | some rest => skipFiller fuel rest
      | none => start

/-- The text after spaces, tabs and line ends. -/
def skipBreaks : (fuel : Nat) → List Char → List Char
  | 0, s => s
  | fuel + 1, s =>
      match takeNewline (skipSpaces s) with
      | some rest => skipBreaks fuel rest
      | none => skipSpaces s

/-! ### Strings -/

/-- The character with a number, unless the number is a surrogate or too
large. -/
def charOf? (n : Nat) : Option Char :=
  if n.isValidChar then some (Char.ofNat n) else none

/-- Read an escape sequence after its backslash. -/
def takeEscape : List Char → Option (Char × List Char)
  | [] => none
  | c :: rest =>
      if c == '"' || c == '\\' then some (c, rest)
      else if c == 'b' then some ('\x08', rest)
      else if c == 'f' then some ('\x0c', rest)
      else if c == 'n' then some ('\n', rest)
      else if c == 'r' then some ('\r', rest)
      else if c == 't' then some ('\t', rest)
      else if c == 'u' then do
        let (n, rest) ← takeHex 4 0 rest
        return (← charOf? n, rest)
      else if c == 'U' then do
        let (n, rest) ← takeHex 8 0 rest
        return (← charOf? n, rest)
      else none

/-- A kind of string: its quote, and whether a backslash starts an escape
sequence. -/
structure Quoting where
  quote : Char
  escapes : Bool

/-- Strings in double quotes have escape sequences. -/
def basicQuoting : Quoting := ⟨'"', true⟩

/-- Strings in single quotes have none. -/
def literalQuoting : Quoting := ⟨'\x27', false⟩

/-- Read the rest of a string on one line after its opening quote. -/
def takeShort (quoting : Quoting) : (fuel : Nat) → List Char → Option (List Char × List Char)
  | 0, _ => none
  | _ + 1, [] => none
  | fuel + 1, c :: rest =>
      if c == quoting.quote then
        some ([], rest)
      else if quoting.escapes && c == '\\' then do
        let (escaped, rest) ← takeEscape rest
        let (text, rest) ← takeShort quoting fuel rest
        return (escaped :: text, rest)
      else if isTextChar c then do
        let (text, rest) ← takeShort quoting fuel rest
        return (c :: text, rest)
      else
        none

/-- Read the rest of a string over several lines after its three opening
quotes.  One or two quotes are text, also right before the three closing
ones.  A backslash at the end of a line skips the blanks up to the next
character. -/
def takeLong (quoting : Quoting) : (fuel : Nat) → List Char → Option (List Char × List Char)
  | 0, _ => none
  | _ + 1, [] => none
  | fuel + 1, c :: rest =>
      let s := c :: rest
      let quotes := s.takeWhile (· == quoting.quote)
      if 0 < quotes.length then
        let after := s.dropWhile (· == quoting.quote)
        if 5 < quotes.length then
          none
        else if 3 ≤ quotes.length then
          some (quotes.drop 3, after)
        else do
          let (text, rest) ← takeLong quoting fuel after
          return (quotes ++ text, rest)
      else if quoting.escapes && c == '\\' then
        match takeNewline (skipSpaces rest) with
        | some after => takeLong quoting fuel (skipBreaks after.length after)
        | none => do
            let (escaped, rest) ← takeEscape rest
            let (text, rest) ← takeLong quoting fuel rest
            return (escaped :: text, rest)
      else
        match takeNewline s with
        | some after => do
            let (text, rest) ← takeLong quoting fuel after
            return ('\n' :: text, rest)
        | none =>
            if isTextChar c then do
              let (text, rest) ← takeLong quoting fuel rest
              return (c :: text, rest)
            else
              none

/-- Read a string that starts with a quote.  A line end right after three
opening quotes does not count. -/
def takeString (quoting : Quoting) (s : List Char) : Option (String × List Char) := do
  let (text, rest) ←
    match dropStart? (List.replicate 3 quoting.quote) s with
    | some body => takeLong quoting (s.length + 1) ((takeNewline body).getD body)
    | none => takeShort quoting (s.length + 1) (s.drop 1)
  return (String.ofList text, rest)

/-! ### Keys -/

/-- A character of a key without quotes. -/
def isKeyChar (c : Char) : Bool :=
  c.isAlphanum || c == '-' || c == '_'

/-- Read one part of a key. -/
def takeKeyPart (s : List Char) : Option (String × List Char) :=
  match s with
  | '"' :: rest => (takeShort basicQuoting s.length rest).map fun (t, r) => (String.ofList t, r)
  | '\x27' :: rest =>
      (takeShort literalQuoting s.length rest).map fun (t, r) => (String.ofList t, r)
  | _ =>
      let key := s.takeWhile isKeyChar
      if key.isEmpty then none else some (String.ofList key, s.dropWhile isKeyChar)

/-- Read a dotted key and the blanks around its parts.  Its last part stands
apart. -/
def takeKey : (fuel : Nat) → List Char → Option (List String × String × List Char)
  | 0, _ => none
  | fuel + 1, s => do
      let (part, rest) ← takeKeyPart (skipSpaces s)
      match skipSpaces rest with
      | '.' :: rest => do
          let (path, key, rest) ← takeKey fuel rest
          return (part :: path, key, rest)
      | rest => some ([], part, rest)

/-- How deep keys, arrays and inline tables may nest. -/
def nestingLimit : Nat := 79

/-! ### Numbers -/

/-- Read digits that may have single underscores between them. -/
def takeGrouped (isDigit : Char → Bool) (s : List Char) : Option (List Char × List Char) :=
  let isPart := fun c => isDigit c || c == '_'
  let groups := splitAtChar '_' (s.takeWhile isPart)
  if groups.all fun group => !group.isEmpty then
    some (groups.flatten, s.dropWhile isPart)
  else
    none

/-- An integer of 64 bits. -/
def integerOf? (n : Int) : Option Toml :=
  if -(Int.pow 2 63) ≤ n && n < Int.pow 2 63 then some (.integer n) else none

/-- The value of digits in a base. -/
def valueInBase (base : Nat) (digits : List Char) : Nat :=
  digits.foldl (fun n c => n * base + (hexValue? c).getD 0) 0

/-- Read an integer after the mark of its base. -/
def takeInBase (base : Nat) (s : List Char) : Option (Toml × List Char) := do
  let (digits, rest) ← takeGrouped (fun c => ((hexValue? c).any (· < base))) s
  return (← integerOf? (valueInBase base digits), rest)

/-- Read the exponent of a number, if there is one. -/
def takePower (s : List Char) : Option (Option Int × List Char) :=
  match s with
  | [] => some (none, [])
  | c :: rest =>
      if c == 'e' || c == 'E' then do
        let negative := rest.head? == some '-'
        let unsigned := if negative || rest.head? == some '+' then rest.drop 1 else rest
        let (digits, rest) ← takeGrouped Char.isDigit unsigned
        let n : Int := digitsValue digits
        return (some (if negative then -n else n), rest)
      else
        some (none, s)

/-- Read the digits after the point of a number, if there is one. -/
def takeDecimals (s : List Char) : Option (List Char × List Char) :=
  match s with
  | '.' :: rest => takeGrouped Char.isDigit rest
  | _ => some ([], s)

/-- Read a decimal number after its sign.  Zero is the only integer part that
starts with a zero digit.  A positive number that is too large for its format
is refused. -/
def takeUnsigned (negative : Bool) (s : List Char) : Option (Toml × List Char) := do
  let (whole, rest) ← takeGrouped Char.isDigit s
  if whole.head? == some '0' && 1 < whole.length then
    none
  else
    let (decimals, rest) ← takeDecimals rest
    let (power, rest) ← takePower rest
    if decimals.isEmpty && power.isNone then
      let n : Int := digitsValue whole
      return (← integerOf? (if negative then -n else n), rest)
    else
      let x := Double.ofScaled negative (digitsValue (whole ++ decimals))
        (power.getD 0 - decimals.length)
      if x.isFinite || negative then return (.float x, rest) else none

/-- Read one of the words that are floating-point numbers. -/
def takeSpecial (negative : Bool) (s : List Char) : Option (Toml × List Char) :=
  match dropStart? "inf".toList s with
  | some rest => some (.float (.infinite negative), rest)
  | none => (dropStart? "nan".toList s).map fun rest => (.float .nan, rest)

/-- Read a number with its sign. -/
def takeNumber (s : List Char) : Option (Toml × List Char) :=
  let negative := s.head? == some '-'
  let signed := negative || s.head? == some '+'
  let unsigned := if signed then s.drop 1 else s
  match unsigned with
  | '0' :: 'x' :: rest => if signed then none else takeInBase 16 rest
  | '0' :: 'o' :: rest => if signed then none else takeInBase 8 rest
  | '0' :: 'b' :: rest => if signed then none else takeInBase 2 rest
  | c :: _ => if c.isDigit then takeUnsigned negative unsigned else takeSpecial negative unsigned
  | [] => none

/-! ### Dates and times -/

/-- Read a number of exactly `count` digits. -/
def takeFixed (count : Nat) (s : List Char) : Option (Nat × List Char) :=
  let digits := s.take count
  if digits.length == count && isDigits digits then
    some (digitsValue digits, s.drop count)
  else
    none

/-- Read a given character. -/
def takeMark (mark : Char) : List Char → Option (List Char)
  | c :: rest => if c == mark then some rest else none
  | [] => none

/-- Read a date. -/
def takeDate (s : List Char) : Option (List Char) := do
  let (year, rest) ← takeFixed 4 s
  let (month, rest) ← takeFixed 2 (← takeMark '-' rest)
  let (day, rest) ← takeFixed 2 (← takeMark '-' rest)
  if Date.isValid year month day then some rest else none

/-- Read hours and minutes. -/
def takeHourMinute (s : List Char) : Option (List Char) := do
  let (hour, rest) ← takeFixed 2 s
  let (minute, rest) ← takeFixed 2 (← takeMark ':' rest)
  if hour < 24 && minute < 60 then some rest else none

/-- Read a time of day.  A minute may have a leap second. -/
def takeTime (s : List Char) : Option (List Char) := do
  let rest ← takeHourMinute s
  let (second, rest) ← takeFixed 2 (← takeMark ':' rest)
  if 60 < second then
    none
  else
    match rest with
    | '.' :: c :: more =>
        if c.isDigit then some (more.dropWhile Char.isDigit) else some rest
    | _ => some rest

/-- Read the offset of a time from universal time, if there is one. -/
def takeOffset (s : List Char) : Option (List Char) :=
  match s with
  | [] => some []
  | c :: rest =>
      if c == 'Z' || c == 'z' then some rest
      else if c == '+' || c == '-' then takeHourMinute rest
      else some s

/-- Read a date that may be followed by a time, which may have an offset. -/
def takeDateTime (s : List Char) : Option (List Char) := do
  let rest ← takeDate s
  match rest with
  | mark :: time =>
      if (mark == 'T' || mark == 't' || mark == ' ') && (time.head?.any Char.isDigit) then do
        takeOffset (← takeTime time)
      else
        some rest
  | [] => some []

/-- Read a date, a time or both, as told by the first digits. -/
def takeMoment? (s : List Char) : Option (Option (List Char)) :=
  let digits := (s.takeWhile Char.isDigit).length
  let mark := (s.dropWhile Char.isDigit).head?
  if digits == 4 && mark == some '-' then some (takeDateTime s)
  else if digits == 2 && mark == some ':' then some (takeTime s)
  else none

/-- Read a number, a date or a time. -/
def takeNumeric (s : List Char) : Option (Toml × List Char) :=
  match takeMoment? s with
  | some result =>
      result.map fun rest => (.moment (String.ofList (s.take (s.length - rest.length))), rest)
  | none => takeNumber s

/-! ### Values -/

/-- Read a word that is a value. -/
def takeTruth (s : List Char) : Option (Toml × List Char) :=
  match dropStart? "true".toList s with
  | some rest => some (.boolean true, rest)
  | none => (dropStart? "false".toList s).map fun rest => (.boolean false, rest)

mutual

/-- Read a value.  Arrays and inline tables nest at most `depth` levels
deep. -/
def takeValue : (fuel depth : Nat) → List Char → Option (Toml × List Char)
  | 0, _, _ => none
  | fuel + 1, depth, s =>
      match s with
      | [] => none
      | '"' :: _ => (takeString basicQuoting s).map fun (text, rest) => (.string text, rest)
      | '\x27' :: _ => (takeString literalQuoting s).map fun (text, rest) => (.string text, rest)
      | '[' :: rest =>
          if depth == 0 then none
          else (takeItems fuel (depth - 1) rest).map fun (items, rest) => (.array items, rest)
      | '\x7b' :: rest =>
          if depth == 0 then
            none
          else
            match skipSpaces rest with
            | '\x7d' :: rest => some (.inlineTable [], rest)
            | rest =>
                (takeEntries fuel (depth - 1) [] rest).map fun (entries, rest) =>
                  (.inlineTable entries, rest)
      | c :: _ => if c == 't' || c == 'f' then takeTruth s else takeNumeric s

/-- Read the items of an array up to its end.  A comma may follow the last
one. -/
def takeItems : (fuel depth : Nat) → List Char → Option (List Toml × List Char)
  | 0, _, _ => none
  | fuel + 1, depth, s =>
      match skipFiller (s.length + 1) s with
      | ']' :: rest => some ([], rest)
      | start => do
          let (item, rest) ← takeValue fuel depth start
          match skipFiller (rest.length + 1) rest with
          | ',' :: rest => do
              let (items, rest) ← takeItems fuel depth rest
              return (item :: items, rest)
          | ']' :: rest => some ([item], rest)
          | _ => none

/-- Read the entries of an inline table up to its end, after those that are
there. -/
def takeEntries : (fuel depth : Nat) → Entries → List Char → Option (Entries × List Char)
  | 0, _, _, _ => none
  | fuel + 1, depth, entries, s => do
      let (path, key, rest) ← takeKey nestingLimit s
      let rest ← takeMark '=' rest
      let (value, rest) ← takeValue fuel depth (skipSpaces rest)
      let entries ← assign? path key value entries
      match skipSpaces rest with
      | ',' :: rest => takeEntries fuel depth entries rest
      | '\x7d' :: rest => some (entries, rest)
      | _ => none

end

/-! ### Documents -/

/-- Read a line that gives a key a value. -/
def takeAssignment (s : List Char) : Option (Line × List Char) := do
  let (path, key, rest) ← takeKey nestingLimit s
  let rest ← takeMark '=' rest
  let (value, rest) ← takeValue (2 * rest.length + 2) nestingLimit (skipSpaces rest)
  return (.entry path key value, ← takeLineEnd rest)

/-- Read the header of a table or of an element of an array of tables. -/
def takeHeader (s : List Char) : Option (Line × List Char) :=
  match dropStart? ['[', '['] s with
  | some rest => do
      let (path, key, rest) ← takeKey nestingLimit rest
      let rest ← dropStart? [']', ']'] rest
      return (.element path key, ← takeLineEnd rest)
  | none => do
      let (path, key, rest) ← takeKey nestingLimit (s.drop 1)
      let rest ← takeMark ']' rest
      return (.header path key, ← takeLineEnd rest)

/-- Read the lines of a document. -/
def takeLines : (fuel : Nat) → List Char → Option (List Line)
  | 0, _ => none
  | fuel + 1, s =>
      match skipSpaces s with
      | [] => some []
      | start@('[' :: _) => do
          let (line, rest) ← takeHeader start
          return line :: (← takeLines fuel rest)
      | start@(c :: _) =>
          if c == '#' || c == '\n' || c == '\r' then do
            takeLines fuel (← takeLineEnd start)
          else do
            let (line, rest) ← takeAssignment start
            return line :: (← takeLines fuel rest)

/-- Read a document.  A byte order mark may precede it. -/
def parse? (text : String) : Option Entries :=
  let s := text.toList
  let s := (dropStart? ['\ufeff'] s).getD s
  (takeLines (s.length + 1) s).bind assemble?

end ColumnarSql.Toml
