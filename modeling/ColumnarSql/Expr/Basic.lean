/-
Module: ColumnarSql.Expr.Basic
Purpose: Expressions of SQL.
Main exports:
  BinaryOp, Expr, Expr.same, Expr.agreesAsKey
-/
import ColumnarSql.ColumnType.Basic
import ColumnarSql.Value.Basic

namespace ColumnarSql

/-- Operators between two operands. -/
inductive BinaryOp where
  | eq
  | notEq
  | lt
  | ltEq
  | gt
  | gtEq
  | like
  | notLike
  | ilike
  | notILike
  | and
  | or
  | plus
  | minus
  | multiply
  | divide
  | modulo
deriving DecidableEq, Repr, Inhabited

namespace BinaryOp

/-- The symbol of an operator. -/
def symbol : BinaryOp → String
  | .eq => "="
  | .notEq => "!="
  | .lt => "<"
  | .ltEq => "<="
  | .gt => ">"
  | .gtEq => ">="
  | .like => "LIKE"
  | .notLike => "NOT LIKE"
  | .ilike => "ILIKE"
  | .notILike => "NOT ILIKE"
  | .and => "AND"
  | .or => "OR"
  | .plus => "+"
  | .minus => "-"
  | .multiply => "*"
  | .divide => "/"
  | .modulo => "%"

/-- Binding strength; operators with a higher one bind tighter. -/
def precedence : BinaryOp → Nat
  | .or => 1
  | .and => 2
  | .plus => 4
  | .minus => 4
  | .multiply => 5
  | .divide => 5
  | .modulo => 5
  | _ => 3

/-- Comparisons share one binding strength and never chain. -/
def isComparison (op : BinaryOp) : Bool :=
  op.precedence == 3

/-- Operators whose right operand keeps no parentheses at equal strength. -/
def isAssociative : BinaryOp → Bool
  | .and => true
  | .or => true
  | .plus => true
  | .multiply => true
  | _ => false

end BinaryOp

/-- An expression. -/
inductive Expr where
  /-- A column, possibly of a named table. -/
  | column (table : Option String) (name : String)
  | star
  /-- A value that is always written out. -/
  | literal (value : Value)
  /-- A value that is bound as a parameter; the key seeds the name of the
  parameter. -/
  | bind (key : Option String) (value : Value)
  /-- An expression under a name. -/
  | label (expr : Expr) (name : String)
  | function (name : String) (args : List Expr)
  | binary (left : Expr) (op : BinaryOp) (right : Expr)
  | not (expr : Expr)
  | isNull (expr : Expr) (negated : Bool)
  | inList (expr : Expr) (list : List Expr) (negated : Bool)
  /-- Inequality that treats NULL as a value; equality when negated. -/
  | distinctFrom (left right : Expr) (negated : Bool)
  | tuple (items : List Expr)
  /-- A field of a date. -/
  | extract (field : String) (expr : Expr)
  | cast (expr : Expr) (type : ColumnType)
  | lambda (param : String) (body : Expr)
  /-- SQL text taken as it is. -/
  | raw (sql : String)
deriving Inhabited

namespace Expr

mutual

/-- Equality of expressions, in which values compare as `Value.same` does. -/
def same : Expr → Expr → Bool
  | .column t n, .column t' n' => t == t' && n == n'
  | .star, .star => true
  | .literal v, .literal v' => v.same v'
  | .bind k v, .bind k' v' => k == k' && v.same v'
  | .label e n, .label e' n' => same e e' && n == n'
  | .function n as, .function n' bs => n == n' && sameList as bs
  | .binary l op r, .binary l' op' r' => same l l' && op == op' && same r r'
  | .not e, .not e' => same e e'
  | .isNull e b, .isNull e' b' => same e e' && b == b'
  | .inList e l b, .inList e' l' b' => same e e' && sameList l l' && b == b'
  | .distinctFrom l r b, .distinctFrom l' r' b' => same l l' && same r r' && b == b'
  | .tuple as, .tuple bs => sameList as bs
  | .extract f e, .extract f' e' => f == f' && same e e'
  | .cast e t, .cast e' t' => same e e' && t == t'
  | .lambda p e, .lambda p' e' => p == p' && same e e'
  | .raw s, .raw s' => s == s'
  | _, _ => false

/-- Itemwise `same`. -/
def sameList : List Expr → List Expr → Bool
  | [], [] => true
  | a :: as, b :: bs => same a b && sameList as bs
  | _, _ => false

end

/-- Equality of key expressions: two columns are the same key if they have the
same name, whatever table they name. -/
def agreesAsKey : Expr → Expr → Bool
  | .column _ a, .column _ b => a == b
  | a, b => same a b

end Expr

end ColumnarSql
