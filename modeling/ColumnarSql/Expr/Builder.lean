/-
Module: ColumnarSql.Expr.Builder
Purpose: Building expressions.
Main exports:
  Expr.col, Expr.qualified, Expr.value, Expr.impliedKey, Expr.inheritKey, Expr.op,
  Expr.among, Expr.differsFrom, Expr.lambdaOver
-/
import ColumnarSql.Expr.Basic

namespace ColumnarSql.Expr

/-!
A value that is compared with something is bound under a name taken from what
it is compared with.  All builders that combine two expressions name the
values on the right in this way.
-/

/-- A column without a table. -/
def col (name : String) : Expr :=
  .column none name

/-- A column of a table. -/
def qualified (table name : String) : Expr :=
  .column (some table) name

/-- A bound value without a key. -/
def value (v : Value) : Expr :=
  .bind none v

/-- The name that values compared with an expression are bound under. -/
def impliedKey : Expr → Option String
  | .column _ name => some name
  | .function name _ => some name
  | .label _ name => some name
  | _ => none

/-- Give a bound value without a key the key that the second expression
implies. -/
def inheritKey : Expr → Expr → Expr
  | .bind none v, other => .bind other.impliedKey v
  | e, _ => e

/-- Combine two expressions by an operator. -/
def op (left : Expr) (operator : BinaryOp) (right : Expr) : Expr :=
  .binary left operator (right.inheritKey left)

/-- Whether an expression is in a list, or is not when negated. -/
def among (e : Expr) (list : List Expr) (negated : Bool) : Expr :=
  .inList e (list.map fun item => item.inheritKey e) negated

/-- Whether two expressions differ, or are equal when negated, where NULL
counts as a value. -/
def differsFrom (left right : Expr) (negated : Bool) : Expr :=
  .distinctFrom left (right.inheritKey left) negated

/-- Add a condition to those there are. -/
def conjoin (existing : Option Expr) (predicate : Expr) : Expr :=
  match existing with
  | some e => e.op .and predicate
  | none => predicate

/-- The name of the parameter of a lambda expression. -/
def lambdaParam : String := "x"

/-- A lambda expression from a function of its parameter. -/
def lambdaOver (body : Expr → Expr) : Expr :=
  .lambda lambdaParam (body (col lambdaParam))

/-- The number of rows or values. -/
def count (e : Expr) : Expr :=
  .function "count" [e]

/-- The number of rows. -/
def countRows : Expr :=
  count .star

/-- The distinct values of an expression. -/
def distinct (e : Expr) : Expr :=
  .function "distinct" [e]

/-- The empty sort key. -/
def emptyTuple : Expr :=
  .raw "tuple()"

end ColumnarSql.Expr
