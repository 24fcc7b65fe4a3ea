/-
Module: ColumnarSql.Table.Engine
Purpose: Storage engines of tables and their declaration.
Main exports:
  TtlAction, Ttl, Engine, Engine.sql, Engine.declaration,
  Engine.primaryKeyLeadsOrder
-/
import ColumnarSql.Query.Clause
import ColumnarSql.Sql.Parameter

namespace ColumnarSql

open Text

/-- What happens to rows whose time has come. -/
inductive TtlAction where
  | delete
  | toDisk (name : String)
  | toVolume (name : String)
deriving DecidableEq, Repr, Inhabited

/-- An entry of the TTL clause. -/
structure Ttl where
  expr : Expr
  action : Option TtlAction
deriving Inhabited

/-- The words of an action. -/
def TtlAction.text : TtlAction → String
  | .delete => " DELETE"
  | .toDisk name => " TO DISK " ++ quotedString name
  | .toVolume name => " TO VOLUME " ++ quotedString name

/-- An entry as SQL. -/
def Ttl.sql (spelling : Spelling) (entry : Ttl) : Fragment :=
  entry.expr.sql spelling ++ Fragment.ofOption (fun a : TtlAction => .text a.text) entry.action

/-- Entries as SQL, each on a line of its own. -/
def ttlListSql (spelling : Spelling) (entries : List Ttl) : Fragment :=
  .joinWith ",\n    " (entries.map (Ttl.sql spelling))

/-- The expressions of a key, in order. -/
abbrev Key := List Expr

/-- The names of the columns in a key. -/
def Key.columns : Key → List String
  | [] => []
  | .column _ name :: rest => name :: Key.columns rest
  | _ :: rest => Key.columns rest

/-- A key as SQL: one expression stands bare, others in parentheses. -/
def Key.sql (spelling : Spelling) (key : Key) : Fragment :=
  match key with
  | [e] => e.sql spelling
  | key => .text "(" ++ Expr.listSql spelling key ++ .text ")"

/-- A storage engine with its parameters. -/
structure Engine where
  name : String
  args : List Expr := []
  partitionBy : Option Key := none
  orderBy : Option Key := none
  primaryKey : Option Key := none
  sampleBy : Option Key := none
  ttl : List Ttl := []
  settings : List Setting := []
deriving Inhabited

namespace Engine

/-- A clause with a key.  Without a key, or with an empty one, there is no
clause. -/
def keySql (spelling : Spelling) (words : String) : Option Key → Fragment
  | none => .empty
  | some [] => .empty
  | some key => .text (" " ++ words ++ " ") ++ Key.sql spelling key

/-- The declaration of an engine as SQL.  The order of its clauses is fixed. -/
def sql (spelling : Spelling) (engine : Engine) : Fragment :=
  .text ("ENGINE = " ++ identifierText engine.name ++ "(") ++
    Expr.listSql spelling engine.args ++ .text ")" ++
    keySql spelling "PARTITION BY" engine.partitionBy ++
    keySql spelling "ORDER BY" engine.orderBy ++
    keySql spelling "PRIMARY KEY" engine.primaryKey ++
    keySql spelling "SAMPLE BY" engine.sampleBy ++
    (if engine.ttl.isEmpty then .empty else .text " TTL " ++ ttlListSql spelling engine.ttl) ++
    settingsSql spelling.percentsDoubled engine.settings

/-- The spelling of declarations: bare column names, and percent signs stand
for themselves. -/
def declarationSpelling : Spelling :=
  ⟨false, false⟩

/-- The declaration of an engine, with all values written out. -/
def declaration (engine : Engine) : Except Error String :=
  ((engine.sql declarationSpelling).spell ⟨true, .named⟩ []).1

/-- Whether one key starts with another. -/
def keyStartsWith : Key → Key → Bool
  | _, [] => true
  | a :: as, b :: bs => Expr.agreesAsKey b a && keyStartsWith as bs
  | [], _ :: _ => false

/-- Whether the primary key, if there is one, is a start of the sort key. -/
def primaryKeyLeadsOrder (engine : Engine) : Bool :=
  match engine.primaryKey, engine.orderBy with
  | none, _ => true
  | some _, none => false
  | some primary, some order => keyStartsWith order primary

end Engine

end ColumnarSql
