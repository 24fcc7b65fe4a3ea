/-
Module: ColumnarSql.Query.Join
Purpose: Joins of a query.
Main exports:
  JoinKind, Strictness, Distribution, JoinSpec, JoinConstraint, Join, Join.sql
-/
import ColumnarSql.Expr.Sql
import ColumnarSql.Text.UpperCase

namespace ColumnarSql

open Text

/-- Which rows without a partner a join keeps. -/
inductive JoinKind where
  | inner
  | leftOuter
  | rightOuter
  | fullOuter
deriving DecidableEq, Repr, Inhabited

/-- Which of several partners a join takes. -/
inductive Strictness where
  | any
  | all
  | asof
deriving DecidableEq, Repr, Inhabited

/-- Whether the right side is sent to every node. -/
inductive Distribution where
  | global
deriving DecidableEq, Repr, Inhabited

/-- The words of a kind of join. -/
def JoinKind.text : JoinKind → String
  | .inner => "INNER"
  | .leftOuter => "LEFT OUTER"
  | .rightOuter => "RIGHT OUTER"
  | .fullOuter => "FULL OUTER"

/-- The word of a strictness. -/
def Strictness.text : Strictness → String
  | .any => "ANY"
  | .all => "ALL"
  | .asof => "ASOF"

/-- The word of a distribution. -/
def Distribution.text : Distribution → String
  | .global => "GLOBAL"

/-- Read a kind of join in any case; OUTER may be left out. -/
def JoinKind.parse (s : String) : Except Error JoinKind :=
  match keyword s with
  | "INNER" => .ok .inner
  | "LEFT" => .ok .leftOuter
  | "LEFT OUTER" => .ok .leftOuter
  | "RIGHT" => .ok .rightOuter
  | "RIGHT OUTER" => .ok .rightOuter
  | "FULL" => .ok .fullOuter
  | "FULL OUTER" => .ok .fullOuter
  | _ => .error (.request (.unknownJoinType s))

/-- Read a strictness in any case. -/
def Strictness.parse (s : String) : Except Error Strictness :=
  match keyword s with
  | "ANY" => .ok .any
  | "ALL" => .ok .all
  | "ASOF" => .ok .asof
  | _ => .error (.request (.unknownStrictness s))

/-- Read a distribution in any case. -/
def Distribution.parse (s : String) : Except Error Distribution :=
  match keyword s with
  | "GLOBAL" => .ok .global
  | _ => .error (.request (.unknownDistribution s))

/-- The modifiers of a join. -/
structure JoinSpec where
  kind : Option JoinKind := none
  strictness : Option Strictness := none
  distribution : Option Distribution := none
deriving DecidableEq, Repr, Inhabited

/-- Read something that may be absent. -/
def parseOptional {α : Type} (parse : String → Except Error α) :
    Option String → Except Error (Option α)
  | none => .ok none
  | some s => (parse s).map some

/-- Read the modifiers of a join; the first faulty one is reported. -/
def JoinSpec.parse (kind strictness distribution : Option String) : Except Error JoinSpec := do
  let kind ← parseOptional JoinKind.parse kind
  let strictness ← parseOptional Strictness.parse strictness
  let distribution ← parseOptional Distribution.parse distribution
  return ⟨kind, strictness, distribution⟩

/-- How rows are matched. -/
inductive JoinConstraint where
  | on (predicate : Expr)
  | using (columns : List String)
deriving Inhabited

/-- The names of expressions that are all columns. -/
def columnNames? : List Expr → Option (List String)
  | [] => some []
  | .column _ name :: rest => (columnNames? rest).map (name :: ·)
  | _ :: _ => none

/-- A tuple of columns names the columns to match on; any other expression is
the condition of the match. -/
def JoinConstraint.ofExpr (e : Expr) : JoinConstraint :=
  match e with
  | .tuple items =>
      match columnNames? items with
      | some (name :: names) => .using (name :: names)
      | _ => .on e
  | _ => .on e

/-- A join with a table. -/
structure Join where
  table : String
  constraint : JoinConstraint
  spec : JoinSpec
deriving Inhabited

/-- The condition of a join as SQL. -/
def JoinConstraint.sql (spelling : Spelling) : JoinConstraint → Fragment
  | .on predicate => .text " ON " ++ predicate.sql spelling
  | .using columns => .text (" USING (" ++ joinWith ", " (columns.map identifierText) ++ ")")

/-- A join as SQL. -/
def Join.sql (spelling : Spelling) (join : Join) : Fragment :=
  Fragment.ofOption (fun d : Distribution => .text (d.text ++ " ")) join.spec.distribution ++
    Fragment.ofOption (fun s : Strictness => .text (s.text ++ " ")) join.spec.strictness ++
    .text ((join.spec.kind.getD .inner).text ++ " JOIN " ++ identifierText join.table) ++
    join.constraint.sql spelling

end ColumnarSql
