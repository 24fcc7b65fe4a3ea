/-
Module: ColumnarSql.Text.Quoted
Purpose: Quoted identifiers and single-quoted string literals.
Main exports:
  isPlainName, identifierText, quotedString, QuotedReading, readQuoted,
  doublePercents
-/
import ColumnarSql.Text.Blank

namespace ColumnarSql.Text

/-!
A string literal stands between single quotes.  A backslash marks the
characters that cannot stand for themselves: the quote, the backslash, line
feed, tab, carriage return and NUL.  Reading is more generous than writing:
any other character after a backslash stands for itself.
-/

/-- A name that needs no quotes as an identifier: a letter or underscore, then
letters, digits and underscores. -/
def isPlainName : List Char → Bool
  | [] => false
  | c :: rest => (c.isAlpha || c == '_') && rest.all isWordChar

/-- Put a backslash before every backslash and double quote. -/
def escapeIdentifier : List Char → List Char
  | [] => []
  | c :: rest =>
      if c == '\\' || c == '"' then '\\' :: c :: escapeIdentifier rest
      else c :: escapeIdentifier rest

/-- An identifier as SQL text: plain names stand bare, all others in double
quotes. -/
def identifierText (name : String) : String :=
  if isPlainName name.toList then name
  else String.ofList ('"' :: escapeIdentifier name.toList ++ ['"'])

/-- The letter that stands for a character after a backslash, for the
characters that are written so. -/
def escapeLetter? (c : Char) : Option Char :=
  if c == '\\' then some '\\'
  else if c == '\'' then some '\''
  else if c == '\n' then some 'n'
  else if c == '\t' then some 't'
  else if c == '\r' then some 'r'
  else if c == '\x00' then some '0'
  else none

/-- The character that a letter after a backslash stands for. -/
def unescapeLetter (c : Char) : Char :=
  if c == 'n' then '\n'
  else if c == 't' then '\t'
  else if c == 'r' then '\r'
  else if c == '0' then '\x00'
  else c

/-- The body of a string literal. -/
def escapeString : List Char → List Char
  | [] => []
  | c :: rest =>
      match escapeLetter? c with
      | some letter => '\\' :: letter :: escapeString rest
      | none => c :: escapeString rest

/-- The characters of a string literal, quotes included. -/
def quoteChars (s : List Char) : List Char :=
  '\'' :: (escapeString s ++ ['\''])

/-- A string literal. -/
def quotedString (s : String) : String :=
  String.ofList (quoteChars s.toList)

/-- Result of reading the body of a string literal: the text read and what
follows the closing quote, or the place where reading stopped. -/
inductive QuotedReading where
  | closed (text rest : List Char)
  | stopped (place : List Char)
deriving Repr, Inhabited, DecidableEq

/-- Put a character in front of the text read. -/
def QuotedReading.cons (c : Char) : QuotedReading → QuotedReading
  | .closed text rest => .closed (c :: text) rest
  | .stopped place => .stopped place

/-- Read the body of a string literal up to its closing quote.  An unclosed
literal stops at the end of the text; a backslash with nothing after it stops
at that backslash. -/
def readQuotedBody : List Char → QuotedReading
  | [] => .stopped []
  | '\'' :: rest => .closed [] rest
  | ['\\'] => .stopped ['\\']
  | '\\' :: c :: rest => (readQuotedBody rest).cons (unescapeLetter c)
  | c :: rest => (readQuotedBody rest).cons c

/-- Read a string literal at the start of a text. -/
def readQuoted : List Char → QuotedReading
  | '\'' :: rest => readQuotedBody rest
  | s => .stopped s

/-- The text of a string literal that is the whole of `s`. -/
def wholeQuoted? (s : List Char) : Option String :=
  match readQuoted s with
  | .closed text [] => some (String.ofList text)
  | _ => none

/-- Write every percent sign twice, as texts need it that are formatted with
percent placeholders afterwards. -/
def doublePercents : List Char → List Char
  | [] => []
  | c :: rest => if c == '%' then '%' :: '%' :: doublePercents rest else c :: doublePercents rest

end ColumnarSql.Text
