/-
Module: ColumnarSql.Sql.Fragment
Purpose: SQL text with places for bound values.
Main exports:
  Piece, Fragment, Fragment.text, Fragment.bind, Fragment.fail, Fragment.joinWith
-/
import ColumnarSql.Error

namespace ColumnarSql

/-!
SQL is written once, as pieces: texts, and places where a value is bound.
Whether a bound value later becomes a placeholder or a literal does not change
the pieces.

Writing may fail.  A fragment therefore carries its fault, and nothing is
appended to a fragment that has one, so the pieces are those written before
the first fault.
-/

/-- A piece of SQL. -/
inductive Piece where
  | text (s : String)
  /-- A value to be bound; the key, if there is one, seeds its name. -/
  | bound (key : Option String) (value : Value)
deriving Inhabited

/-- SQL written so far, and the fault that stopped the writing, if one did. -/
structure Fragment where
  pieces : List Piece
  fault : Option Error
deriving Inhabited

namespace Fragment

/-- Nothing written. -/
def empty : Fragment :=
  ⟨[], none⟩

/-- A piece of text. -/
def text (s : String) : Fragment :=
  ⟨[.text s], none⟩

/-- A bound value. -/
def bind (key : Option String) (value : Value) : Fragment :=
  ⟨[.bound key value], none⟩

/-- A fault. -/
def fail (error : Error) : Fragment :=
  ⟨[], some error⟩

/-- Write one fragment after another. -/
def append (a b : Fragment) : Fragment :=
  match a.fault with
  | some error => ⟨a.pieces, some error⟩
  | none => ⟨a.pieces ++ b.pieces, b.fault⟩

instance : Append Fragment := ⟨append⟩

/-- Write a fragment unless a check fails. -/
def guarded (check : Except Error Unit) (fragment : Fragment) : Fragment :=
  match check with
  | .ok _ => fragment
  | .error error => fail error

/-- Write fragments one after the other with `separator` between neighbours. -/
def joinWith (separator : String) : List Fragment → Fragment
  | [] => empty
  | [item] => item
  | item :: next :: rest => item ++ text separator ++ joinWith separator (next :: rest)

/-- Write a fragment for the value of an option, if there is one. -/
def ofOption {α : Type} (write : α → Fragment) : Option α → Fragment
  | none => empty
  | some a => write a

/-- Write a text if a condition holds. -/
def textIf (condition : Bool) (s : String) : Fragment :=
  if condition then text s else empty

end Fragment

end ColumnarSql
