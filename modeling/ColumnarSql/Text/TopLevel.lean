/-
Module: ColumnarSql.Text.TopLevel
Purpose: What stands outside quotes and brackets in a text.
Main exports:
  Nesting, Nesting.step, splitOutside
-/
import ColumnarSql.Text.Blank

namespace ColumnarSql.Text

/-- Where a scan stands: inside how many brackets, and inside which quotes.
Inside quotes a backslash takes the next character along. -/
structure Nesting where
  depth : Nat := 0
  quote : Option Char := none
  escaped : Bool := false
deriving DecidableEq, Repr, Inhabited

namespace Nesting

/-- The three quote characters. -/
def isQuote (c : Char) : Bool :=
  c == '\'' || c == '"' || c == '\x60'

/-- Step over a character.  A closing bracket without an opening one is
ignored. -/
def step (n : Nesting) (c : Char) : Nesting :=
  match n.quote with
  | some q =>
      if n.escaped then { n with escaped := false }
      else if c == '\\' then { n with escaped := true }
      else if c == q then { n with quote := none }
      else n
  | none =>
      if isQuote c then { n with quote := some c }
      else if c == '(' || c == '[' then { n with depth := n.depth + 1 }
      else if c == ')' || c == ']' then { n with depth := n.depth - 1 }
      else n

/-- Outside all quotes and brackets. -/
def isTop (n : Nesting) : Bool :=
  n.quote.isNone && n.depth == 0

end Nesting

/-- Cut a text at every top-level separator; `part` is the part being read. -/
def segmentsFrom (separator : Char) (n : Nesting) (part : List Char) :
    List Char → List (List Char)
  | [] => [part]
  | c :: rest =>
      if n.isTop && c == separator then part :: segmentsFrom separator n [] rest
      else segmentsFrom separator (n.step c) (part ++ [c]) rest

/-- The trimmed parts between top-level separators.  A blank text has no
parts. -/
def splitOutside (separator : Char) (s : List Char) : List (List Char) :=
  match segmentsFrom separator ⟨0, none, false⟩ [] s with
  | [part] => if (trim part).isEmpty then [] else [trim part]
  | parts => parts.map trim

end ColumnarSql.Text
