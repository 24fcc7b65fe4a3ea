/-
Module: ColumnarSql.Table.Reflection
Purpose: Rebuilding engines and tables from what the server reports.
Main exports:
  Expr.ofReport, Key.ofReport, Ttl.ofReport, settingOfReport, Engine.ofText,
  Engine.ofReport, Table.ofReport
-/
import ColumnarSql.Collect
import ColumnarSql.Double.Reader
import ColumnarSql.Table.Basic
import ColumnarSql.Table.EngineText

namespace ColumnarSql

open Text

/-!
A reported expression is resolved only if it is a bare name of a column of the
table; every other expression is kept as the text it is.
-/

/-- What stands between a pair of the same quotes, if a text has one. -/
def unquoted? (quote : Char) (s : List Char) : Option (List Char) :=
  (dropStart? [quote] s).bind (dropEnd? [quote])

/-- An identifier without its quotes. -/
def withoutQuotes (s : List Char) : List Char :=
  match unquoted? '\x60' s with
  | some inner => inner
  | none => (unquoted? '"' s).getD s

/-- A reported expression: a column of the table, or raw text. -/
def Expr.ofReport (table : Table) (s : List Char) : Expr :=
  let name := withoutQuotes s
  let isName := name.length != s.length || isPlainName s
  if isName && table.hasColumn (String.ofList name) then table.reference (String.ofList name)
  else .raw (String.ofList s)

/-- Whether the opening parenthesis at the start of a text closes only at its
end; `depth` parentheses are open before. -/
def closesAtEnd (depth : Nat) : List Char → Bool
  | [] => true
  | '(' :: rest => closesAtEnd (depth + 1) rest
  | ')' :: rest => if depth - 1 == 0 && !rest.isEmpty then false else closesAtEnd (depth - 1) rest
  | _ :: rest => closesAtEnd depth rest

/-- Whether one pair of parentheses encloses a text.  Quotes are not looked
at. -/
def isEnclosed (s : List Char) : Bool :=
  s.head? == some '(' && s.getLast? == some ')' && closesAtEnd 0 s

/-- A reported key: the expressions between parentheses, or one expression. -/
def Key.ofReport (table : Table) (s : List Char) : Key :=
  let items := if isEnclosed s then splitOutside ',' ((s.drop 1).dropLast) else [s]
  items.map (Expr.ofReport table)

/-- A reported TTL entry that moves rows to a named place. -/
def Ttl.ofMove (table : Table) (s before target : List Char) (action : String → TtlAction) :
    Except Error Ttl :=
  match wholeQuoted? (trim target) with
  | some name => .ok ⟨Expr.ofReport table (trim before), some (action name)⟩
  | none => .error (.parse 0 (.malformedTtlTarget (String.ofList s)))

/-- A reported TTL entry. -/
def Ttl.ofReport (table : Table) (s : List Char) : Except Error Ttl :=
  match dropEnd? " DELETE".toList s with
  | some before => .ok ⟨Expr.ofReport table (trim before), some .delete⟩
  | none =>
      match splitAtLast " TO DISK ".toList s with
      | some (before, target) => Ttl.ofMove table s before target .toDisk
      | none =>
          match splitAtLast " TO VOLUME ".toList s with
          | some (before, target) => Ttl.ofMove table s before target .toVolume
          | none => .ok ⟨Expr.ofReport table s, none⟩

/-- The value of a reported setting: a number if it reads as one, a string
otherwise. -/
def Value.ofReport (s : List Char) : Value :=
  match readIntegerWithin? (-(Int.pow 2 63)) (Int.pow 2 63 - 1) s with
  | some n => .int (Int64.ofInt n)
  | none =>
      match readNaturalUpTo? (Nat.pow 2 64 - 1) s with
      | some n => .uint (UInt64.ofNat n)
      | none =>
          match Double.read? s with
          | some x => .float x
          | none => .string ((wholeQuoted? s).getD (String.ofList s))

/-- A reported setting. -/
def settingOfReport (s : List Char) : Except Error Setting :=
  match splitOnce '=' s with
  | some (name, value) => .ok (String.ofList (trim name), Value.ofReport (trim value))
  | none => .error (.parse 0 (.malformedSetting (String.ofList s)))

namespace Engine

/-- The arguments of a reported engine. -/
def argsOfReport (table : Table) (args : Option String) : List Expr :=
  match args with
  | some s => (splitOutside ',' s.toList).map (Expr.ofReport table)
  | none => []

/-- Resolve the parts of a reported engine against the columns of a table. -/
def ofText (text : EngineText) (table : Table) : Except Error Engine := do
  let key := fun (s : String) => Key.ofReport table s.toList
  let ttl ← collect (Ttl.ofReport table) (splitOutside ',' (text.ttl.getD "").toList)
  let settings ← collect settingOfReport (splitOutside ',' (text.settings.getD "").toList)
  return {
    name := text.name
    args := argsOfReport table text.args
    partitionBy := text.partitionBy.map key
    orderBy := text.orderBy.map key
    primaryKey := text.primaryKey.map key
    sampleBy := text.sampleBy.map key
    ttl := ttl
    settings := settings }

/-- Rebuild an engine from its reported text. -/
def ofReport (report : String) (table : Table) : Except Error Engine := do
  let text ← EngineText.parse report
  ofText text table

end Engine

/-- Rebuild a table from its reported columns and engine.  A blank engine text
means that there is no engine. -/
def Table.ofReport (name : String) (columns : List Column) (report : Option String) :
    Except Error Table :=
  let bare : Table := ⟨name, columns, none⟩
  match report with
  | none => .ok bare
  | some text =>
      if (trim text.toList).isEmpty then .ok bare
      else (Engine.ofReport text bare).map fun engine => { bare with engine := some engine }

end ColumnarSql
