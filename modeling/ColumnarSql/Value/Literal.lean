/-
Module: ColumnarSql.Value.Literal
Purpose: Values as SQL literals and inside error messages.
Main exports:
  Value.literal, Value.diagnostic
-/
import ColumnarSql.Calendar.Printer
import ColumnarSql.Double.Layout
import ColumnarSql.Text.Printable
import ColumnarSql.Text.Quoted
import ColumnarSql.Value.Basic

namespace ColumnarSql.Value

open Text

/-- A floating-point number as a literal. -/
def floatLiteral (x : Double) : String :=
  match x with
  | .nan => "nan"
  | .number _ _ => Double.Layout.plain.write x

/-- A string as a literal, with percent signs written twice on request. -/
def stringLiteral (doubled : Bool) (s : String) : String :=
  if doubled then String.ofList (doublePercents (quoteChars s.toList)) else quotedString s

mutual

/-- A value as an SQL literal.  `doubled` asks for percent signs inside strings
to be written twice. -/
def literal (doubled : Bool) : Value → String
  | .null => "NULL"
  | .bool b => if b then "true" else "false"
  | .int n => toString n.toInt
  | .uint n => toString n.toNat
  | .float x => floatLiteral x
  | .string s => stringLiteral doubled s
  | .decimal d => d.text
  | .date d => "'" ++ d.text ++ "'"
  | .dateTime moment => "'" ++ moment.text ' ' ++ "'"
  | .array items => "[" ++ joinWith ", " (literals doubled items) ++ "]"
  | .tuple [item] => "tuple(" ++ literal doubled item ++ ")"
  | .tuple items => "(" ++ joinWith ", " (literals doubled items) ++ ")"
  | .map entries => "map(" ++ joinWith ", " (entryLiterals doubled entries) ++ ")"

/-- The literals of a list of values. -/
def literals (doubled : Bool) : List Value → List String
  | [] => []
  | item :: rest => literal doubled item :: literals doubled rest

/-- The literals of keys and values in turn. -/
def entryLiterals (doubled : Bool) : List (Value × Value) → List String
  | [] => []
  | (key, value) :: rest =>
      literal doubled key :: literal doubled value :: entryLiterals doubled rest

end

mutual

/-- A value as error messages show it, with the name of its form. -/
def diagnostic : Value → String
  | .null => "Null"
  | .bool b => "Bool(" ++ (if b then "true" else "false") ++ ")"
  | .int n => "Int(" ++ toString n.toInt ++ ")"
  | .uint n => "UInt(" ++ toString n.toNat ++ ")"
  | .float x => "Float(" ++ Double.Layout.diagnostic.write x ++ ")"
  | .string s => "String(" ++ diagnosticString s ++ ")"
  | .decimal d => "Decimal(" ++ d.text ++ ")"
  | .date d => "Date(" ++ d.text ++ ")"
  | .dateTime moment => "DateTime(" ++ moment.text 'T' ++ ")"
  | .array items => "Array([" ++ joinWith ", " (diagnostics items) ++ "])"
  | .tuple items => "Tuple([" ++ joinWith ", " (diagnostics items) ++ "])"
  | .map entries => "Map([" ++ joinWith ", " (entryDiagnostics entries) ++ "])"

/-- The diagnostics of a list of values. -/
def diagnostics : List Value → List String
  | [] => []
  | item :: rest => diagnostic item :: diagnostics rest

/-- The diagnostics of a list of entries. -/
def entryDiagnostics : List (Value × Value) → List String
  | [] => []
  | (key, value) :: rest =>
      ("(" ++ diagnostic key ++ ", " ++ diagnostic value ++ ")") :: entryDiagnostics rest

end

end ColumnarSql.Value
