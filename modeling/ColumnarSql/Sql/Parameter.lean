/-
Module: ColumnarSql.Sql.Parameter
Purpose: Names and placeholders of bound values, and the spelling of fragments.
Main exports:
  ParameterStyle, CompileOptions, Parameter, Fragment.spell
-/
import ColumnarSql.Sql.Fragment

namespace ColumnarSql

open Text

/-- How a bound value is marked in SQL text. -/
inductive ParameterStyle where
  /-- `%(name)s`; a percent sign that is text is written twice. -/
  | pyformat
  /-- `:name` -/
  | named
  /-- `?` -/
  | qmark
deriving DecidableEq, Repr, Inhabited

namespace ParameterStyle

/-- The name of a style. -/
def name : ParameterStyle → String
  | .pyformat => "pyformat"
  | .named => "named"
  | .qmark => "qmark"

/-- The style with exactly this name. -/
def ofName? (s : String) : Option ParameterStyle :=
  if s == "pyformat" then some .pyformat
  else if s == "named" then some .named
  else if s == "qmark" then some .qmark
  else none

/-- Read the name of a style in any mixture of ASCII cases. -/
def parse (s : String) : Except Error ParameterStyle :=
  match ofName? (String.ofList (s.toList.map Char.toLower)) with
  | some style => .ok style
  | none => .error (.config (.unknownStyle s))

/-- The mark of a parameter. -/
def placeholder (style : ParameterStyle) (name : String) : String :=
  match style with
  | .pyformat => "%(" ++ name ++ ")s"
  | .named => ":" ++ name
  | .qmark => "?"

/-- Whether a percent sign that is text is written twice. -/
def percentsDoubled : ParameterStyle → Bool
  | .pyformat => true
  | _ => false

end ParameterStyle

/-- Choices that do not change the meaning of a statement. -/
structure CompileOptions where
  /-- Write bound values as literals. -/
  literalBinds : Bool := false
  style : ParameterStyle := .pyformat
deriving DecidableEq, Repr, Inhabited

/-- A bound value with its name: the base made from its key, and a number that
tells it from the others with the same base. -/
structure Parameter where
  base : String
  number : Nat
  value : Value
deriving Inhabited

namespace Parameter

/-- The name of a parameter. -/
def name (p : Parameter) : String :=
  p.base ++ "_" ++ toString p.number

/-- The base of a key: characters that cannot stand in a name become
underscores. -/
def baseOf (key : Option String) : String :=
  String.ofList ((key.getD "param").toList.map fun c => if isWordChar c then c else '_')

/-- The parameter for a value that is bound after the `earlier` ones. -/
def next (earlier : List Parameter) (key : Option String) (value : Value) : Parameter :=
  let base := baseOf key
  ⟨base, earlier.countP (fun p => p.base == base) + 1, value⟩

end Parameter

/-! ### Spelling -/

/-- Spell pieces with placeholders.  The result lists the parameters bound
before, then the new ones in the order of their placeholders. -/
def spellBound (style : ParameterStyle) (earlier : List Parameter) :
    List Piece → String × List Parameter
  | [] => ("", earlier)
  | .text s :: rest =>
      let (sql, params) := spellBound style earlier rest
      (s ++ sql, params)
  | .bound key value :: rest =>
      let param := Parameter.next earlier key value
      let (sql, params) := spellBound style (earlier ++ [param]) rest
      (style.placeholder param.name ++ sql, params)

/-- Spell pieces with literals in place of placeholders. -/
def spellLiteral (style : ParameterStyle) : List Piece → String
  | [] => ""
  | .text s :: rest => s ++ spellLiteral style rest
  | .bound _ value :: rest => value.literal style.percentsDoubled ++ spellLiteral style rest

/-- Spell pieces as the options ask. -/
def spellPieces (options : CompileOptions) (earlier : List Parameter) (pieces : List Piece) :
    String × List Parameter :=
  if options.literalBinds then (spellLiteral options.style pieces, earlier)
  else spellBound options.style earlier pieces

/-- Spell a fragment after some parameters have been bound.  Values bound
before a fault stay bound. -/
def Fragment.spell (options : CompileOptions) (earlier : List Parameter) (fragment : Fragment) :
    Except Error String × List Parameter :=
  let (sql, params) := spellPieces options earlier fragment.pieces
  match fragment.fault with
  | some error => (.error error, params)
  | none => (.ok sql, params)

end ColumnarSql
