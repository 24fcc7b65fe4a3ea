/-
Module: ColumnarSql.Expr.Sql
Purpose: Writing expressions as SQL.
Main exports:
  Spelling, BinaryOp.text, Expr.sql, Expr.labeledSql, Expr.listSql
-/
import ColumnarSql.ColumnType.Validity
import ColumnarSql.Expr.Basic
import ColumnarSql.Sql.Fragment

namespace ColumnarSql

open Text

/-!
Operands stand in parentheses where they bind looser than the operator around
them.  At equal strength, comparisons always have parentheses; otherwise only a
right operand has them, and only if the operator is not associative.
-/

/-- Choices in the writing of SQL. -/
structure Spelling where
  /-- Write percent signs twice, in strings and in the modulo operator. -/
  percentsDoubled : Bool
  /-- Write the table in front of a column that names one. -/
  qualifiesColumns : Bool
deriving DecidableEq, Repr, Inhabited

/-- A column reference. -/
def columnText (spelling : Spelling) (table : Option String) (name : String) : String :=
  match table with
  | some t =>
      if spelling.qualifiesColumns then identifierText t ++ "." ++ identifierText name
      else identifierText name
  | none => identifierText name

/-- The text of an operator. -/
def BinaryOp.text (percentsDoubled : Bool) (op : BinaryOp) : String :=
  match op with
  | .modulo => if percentsDoubled then "%%" else "%"
  | op => op.symbol

/-- The function that yields a field of a date, for the fields that have
one. -/
def extractFunction? (field : String) : Option String :=
  let lower := String.ofList (field.toList.map Char.toLower)
  if lower == "year" then some "toYear"
  else if lower == "month" then some "toMonth"
  else if lower == "day" then some "toDayOfMonth"
  else none

namespace Expr

/-- Binding strength of an operand that is written with an operator at its top
level.  NOT binds looser than comparisons and tighter than AND. -/
def operandPrecedence? : Expr → Option Nat
  | .binary _ op _ => some op.precedence
  | .not _ => some BinaryOp.and.precedence
  | .distinctFrom _ _ false => some BinaryOp.eq.precedence
  | _ => none

/-- Whether an operand of `parent` needs parentheses. -/
def needsParens (parent : BinaryOp) (isRight : Bool) (operand : Expr) : Bool :=
  match operandPrecedence? operand with
  | none => false
  | some p =>
      if p == parent.precedence then parent.isComparison || (isRight && !parent.isAssociative)
      else p < parent.precedence

/-- Put parentheses around a fragment if asked to. -/
def parenthesized (condition : Bool) (fragment : Fragment) : Fragment :=
  if condition then .text "(" ++ fragment ++ .text ")" else fragment

/-- Whether an expression is written with an operator between operands. -/
def isBinary : Expr → Bool
  | .binary _ _ _ => true
  | _ => false

/-- The word that negates a test. -/
def notWord (negated : Bool) : String :=
  if negated then "NOT " else ""

/-- The check of the type of a cast. -/
def checkType (type : ColumnType) : Except Error Unit :=
  type.validate.mapError .type

mutual

/-- An expression as SQL.  A label is referred to by its name, and the empty
list contains nothing. -/
def sql (spelling : Spelling) : Expr → Fragment
  | .column table name => .text (columnText spelling table name)
  | .star => .text "*"
  | .literal value => .text (value.literal spelling.percentsDoubled)
  | .bind key value => .bind key value
  | .label _ name => .text (identifierText name)
  | .function name args =>
      .text (name ++ "(") ++ .joinWith ", " (sqlList spelling args) ++ .text ")"
  | .binary left op right =>
      parenthesized (needsParens op false left) (sql spelling left) ++
        .text (" " ++ op.text spelling.percentsDoubled ++ " ") ++
        parenthesized (needsParens op true right) (sql spelling right)
  | .not e => .text "NOT " ++ parenthesized e.isBinary (sql spelling e)
  | .isNull e negated => sql spelling e ++ .text (" IS " ++ notWord negated ++ "NULL")
  | .inList e list negated =>
      if list.isEmpty then
        .text (if negated then "1" else "0")
      else
        sql spelling e ++ .text (" " ++ notWord negated ++ "IN (") ++
          .joinWith ", " (sqlList spelling list) ++ .text ")"
  | .distinctFrom left right negated =>
      .text "hasAny([" ++ sql spelling left ++ .text "], [" ++ sql spelling right ++
        .text (if negated then "])" else "]) = 0")
  | .tuple items =>
      .text (if items.length == 1 then "tuple(" else "(") ++
        .joinWith ", " (sqlList spelling items) ++ .text ")"
  | .extract field e =>
      match extractFunction? field with
      | some call => .text (call ++ "(") ++ sql spelling e ++ .text ")"
      | none => sql spelling e
  | .cast e type =>
      .guarded (checkType type)
        (.text "CAST(" ++ sql spelling e ++ .text (" AS " ++ type.render ++ ")"))
  | .lambda param body => .text (param ++ " -> ") ++ sql spelling body
  | .raw text => .text text

/-- Every expression of a list as SQL. -/
def sqlList (spelling : Spelling) : List Expr → List Fragment
  | [] => []
  | e :: rest => sql spelling e :: sqlList spelling rest

end

/-- An item of a select list, where a label names its expression. -/
def labeledSql (spelling : Spelling) : Expr → Fragment
  | .label e name => sql spelling e ++ .text (" AS " ++ identifierText name)
  | e => sql spelling e

/-- Expressions with commas between them. -/
def listSql (spelling : Spelling) (list : List Expr) : Fragment :=
  .joinWith ", " (list.map (sql spelling))

/-- Items of a select list with commas between them. -/
def labeledListSql (spelling : Spelling) (list : List Expr) : Fragment :=
  .joinWith ", " (list.map (labeledSql spelling))

end Expr

end ColumnarSql
