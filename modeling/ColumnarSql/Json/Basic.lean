/-
Module: ColumnarSql.Json.Basic
Purpose: JSON values and their text.
Main exports:
  Json, Json.depth, Json.compact, Json.pretty
-/
import ColumnarSql.Double.Layout
import ColumnarSql.Text.Blank

namespace ColumnarSql

open Text

/-- A JSON value.  The fields of an object keep their order, and a name may
occur twice.  Integers and floating-point numbers are told apart. -/
inductive Json where
  | null
  | bool (b : Bool)
  | integer (n : Int)
  | float (x : Double)
  | string (s : String)
  | array (items : List Json)
  | object (fields : List (String × Json))
deriving Inhabited

namespace Json

mutual

/-- How deep arrays and objects nest. -/
def depth : Json → Nat
  | .array items => itemsDepth items + 1
  | .object fields => fieldsDepth fields + 1
  | _ => 0

/-- The greatest depth of some values. -/
def itemsDepth : List Json → Nat
  | [] => 0
  | item :: rest => max (depth item) (itemsDepth rest)

/-- The greatest depth of the values of some fields. -/
def fieldsDepth : List (String × Json) → Nat
  | [] => 0
  | (_, value) :: rest => max (depth value) (fieldsDepth rest)

end

/-! ### Text -/

/-- A character inside a string.  Quotes, backslashes and control characters
are escaped. -/
def escapeChar (c : Char) : List Char :=
  if c == '"' then ['\\', '"']
  else if c == '\\' then ['\\', '\\']
  else if c == '\x08' then ['\\', 'b']
  else if c == '\x0c' then ['\\', 'f']
  else if c == '\n' then ['\\', 'n']
  else if c == '\r' then ['\\', 'r']
  else if c == '\t' then ['\\', 't']
  else if c.toNat < 32 then
    ['\\', 'u', '0', '0', if c.toNat < 16 then '0' else '1'] ++ Nat.toDigits 16 (c.toNat % 16)
  else [c]

/-- A string with its quotes. -/
def stringText (s : String) : String :=
  String.ofList ('"' :: s.toList.flatMap escapeChar ++ ['"'])

/-- A floating-point number; what is not finite has no number in JSON. -/
def floatText (x : Double) : String :=
  if x.isFinite then Double.Layout.json.write x else "null"

mutual

/-- The text of a value without any blanks. -/
def compact : Json → String
  | .null => "null"
  | .bool b => if b then "true" else "false"
  | .integer n => toString n
  | .float x => floatText x
  | .string s => stringText s
  | .array items => "[" ++ joinWith "," (compactItems items) ++ "]"
  | .object fields => "\x7b" ++ joinWith "," (compactFields fields) ++ "\x7d"

/-- The texts of some values. -/
def compactItems : List Json → List String
  | [] => []
  | item :: rest => compact item :: compactItems rest

/-- The texts of some fields. -/
def compactFields : List (String × Json) → List String
  | [] => []
  | (name, value) :: rest => (stringText name ++ ":" ++ compact value) :: compactFields rest

end

/-- The start of a line at a level of indentation. -/
def newLine (level : Nat) : String :=
  "\n" ++ String.ofList (List.replicate (2 * level) ' ')

/-- Items on lines of their own between two brackets; an empty list stays on
its line. -/
def block (level : Nat) (opening closing : String) (items : List String) : String :=
  if items.isEmpty then opening ++ closing
  else
    opening ++ newLine (level + 1) ++ joinWith ("," ++ newLine (level + 1)) items ++
      newLine level ++ closing

mutual

/-- The text of a value with one item a line, indented by two spaces a
level. -/
def prettyAt (level : Nat) : Json → String
  | .array items => block level "[" "]" (prettyItems (level + 1) items)
  | .object fields => block level "\x7b" "\x7d" (prettyFields (level + 1) fields)
  | .null => "null"
  | .bool b => if b then "true" else "false"
  | .integer n => toString n
  | .float x => floatText x
  | .string s => stringText s

/-- The indented texts of some values. -/
def prettyItems (level : Nat) : List Json → List String
  | [] => []
  | item :: rest => prettyAt level item :: prettyItems level rest

/-- The indented texts of some fields. -/
def prettyFields (level : Nat) : List (String × Json) → List String
  | [] => []
  | (name, value) :: rest =>
      (stringText name ++ ": " ++ prettyAt level value) :: prettyFields level rest

end

/-- The text of a value over several lines. -/
def pretty (json : Json) : String :=
  prettyAt 0 json

end Json

end ColumnarSql
