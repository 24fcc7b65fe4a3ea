/-
Module: ColumnarSql.Proofs.ArithmeticReading
Purpose: The values of arithmetic expressions, and the value that is read off
  what is written of them.
Main exports:
  BinaryOp.result?, value?, IsArithmetic, KeepsProducts, read?, leftGrouped,
  Regrouped.read?_eq, read?_eq_value?, value?_leftGrouped,
  IsArithmetic.read?_eq_of_compile_eq
-/
import ColumnarSql.Proofs.OperatorGrouping

namespace ColumnarSql

/-- What an operator of integer arithmetic yields.  A remainder has the sign of
the dividend, and there is none of a division by zero. -/
def BinaryOp.result? : BinaryOp → Int → Int → Option Int
  | .plus, x, y => some (x + y)
  | .minus, x, y => some (x - y)
  | .multiply, x, y => some (x * y)
  | .modulo, x, y => if y = 0 then none else some (x.tmod y)
  | _, _, _ => none

/-- The operators of integer arithmetic that are total but for a zero modulus. -/
def BinaryOp.isArithmetic : BinaryOp → Bool
  | .plus | .minus | .multiply | .modulo => true
  | _ => false

namespace Grouping

open ColumnarSql.Expr

/-!
An expression has a value by its nesting, `value?`.  What is written of it has
one too: SQL takes products and remainders from left to right, and sums of them
after that.  `read?` is this second value.  Regrouping does not change it,
since it belongs to the text, and it differs from the first only where a
remainder stands to the right of a product without parentheses.
-/

/-! ### Values -/

/-- The value of an arithmetic expression.  A column is looked up by its name
alone, which is all that is written of it outside of a query. -/
def value? (columns : String → Int) : Expr → Option Int
  | .column _ name => some (columns name)
  | .binary left op right =>
      (value? columns left).bind fun x => (value? columns right).bind fun y => op.result? x y
  | _ => none

/-- Columns under sums, differences, products and remainders. -/
inductive IsArithmetic : Expr → Prop where
  | column (table : Option String) (name : String) : IsArithmetic (.column table name)
  | binary {left right : Expr} {op : BinaryOp} (arithmetic : op.isArithmetic = true) :
      IsArithmetic left → IsArithmetic right → IsArithmetic (.binary left op right)

/-- A factor that shows a remainder outside of parentheses. -/
def hasBareRemainder : Expr → Bool
  | .binary _ .modulo _ => true
  | .binary left .multiply right => hasBareRemainder left || hasBareRemainder right
  | _ => false

/-- No product has a bare remainder in its right factor. -/
def KeepsProducts : Expr → Prop
  | .binary left op right =>
      KeepsProducts left ∧ KeepsProducts right ∧
        (op = .multiply → hasBareRemainder right = false)
  | _ => True

/-! ### Reading from left to right -/

/-- A value behind the product that stands before it, if one does. -/
def timesBefore (before : Option Int) (x : Int) : Int :=
  before.elim x (· * x)

@[simp] theorem timesBefore_none (x : Int) : timesBefore none x = x := rfl

@[simp] theorem timesBefore_some (product x : Int) : timesBefore (some product) x = product * x :=
  rfl

/-- The value of what is written of an expression, behind a product that stands
before it. -/
def read? (columns : String → Int) (before : Option Int) : Expr → Option Int
  | .column _ name => some (timesBefore before (columns name))
  | .binary left .multiply right =>
      (read? columns before left).bind fun x => read? columns (some x) right
  | .binary left .modulo right =>
      (read? columns before left).bind fun x =>
        (read? columns none right).bind fun y => BinaryOp.modulo.result? x y
  | .binary left op right =>
      (read? columns none left).bind fun x =>
        (read? columns none right).bind fun y => (op.result? x y).map (timesBefore before)
  | _ => none

/-- Regrouped expressions are read alike. -/
theorem Regrouped.read?_eq {columns : String → Int} {e e' : Expr} (regrouped : Regrouped e e') :
    ∀ before, read? columns before e = read? columns before e' := by
  induction regrouped with
  | refl e => exact fun _ => rfl
  | symm _ inductionHypothesis => exact fun before => (inductionHypothesis before).symm
  | trans _ _ first second => exact fun before => (first before).trans (second before)
  | @regroup op op' associative level a b c =>
      intro before
      cases op with
      | multiply =>
          -- Both sides read the three operands in the order in which they are written.
          cases op' with
          | multiply | divide | modulo => simp [read?, BinaryOp.result?, Option.bind_assoc]
          | _ => exact absurd level (by decide)
      | plus =>
          cases op' with
          | plus | minus =>
              simp [read?, BinaryOp.result?, Option.bind_assoc, Int.add_assoc, Int.add_sub_assoc]
          | _ => exact absurd level (by decide)
      | and =>
          cases op' with
          | and => simp [read?, BinaryOp.result?]
          | _ => exact absurd level (by decide)
      | or =>
          cases op' with
          | or => simp [read?, BinaryOp.result?]
          | _ => exact absurd level (by decide)
      | _ => exact absurd associative (by decide)
  | binary op _ _ first second =>
      intro before
      cases op <;> simp only [read?, first, second]
  | not _ _ => exact fun _ => rfl

/-- Where products keep their right factors, an expression is read as it is
nested, also behind a product unless it shows a remainder. -/
theorem read?_eq_value? {columns : String → Int} {e : Expr} (arithmetic : IsArithmetic e) :
    ∀ {before : Option Int}, KeepsProducts e → before = none ∨ hasBareRemainder e = false →
      read? columns before e = (value? columns e).map (timesBefore before) := by
  induction arithmetic with
  | column table name => exact fun _ _ => rfl
  | @binary left right op arithmetic _ _ first second =>
      rintro before ⟨keepsLeft, keepsRight, noRemainder⟩ position
      cases op with
      | multiply =>
          have leftFirst : before = none ∨ hasBareRemainder left = false :=
            position.imp_right fun none => (Bool.or_eq_false_iff.mp none).1
          have rightLast : ∀ x, read? columns (some x) right = (value? columns right).map (x * ·) :=
            fun x => second keepsRight (.inr (noRemainder rfl))
          simp only [read?, value?, first keepsLeft leftFirst, rightLast]
          cases value? columns left <;> cases value? columns right <;> cases before <;>
            simp [BinaryOp.result?, Int.mul_assoc]
      | modulo =>
          -- A remainder is bare, so nothing stands before it.
          obtain rfl : before = none := position.resolve_right (by simp [hasBareRemainder])
          have plain : timesBefore none = id := rfl
          simp only [read?, value?, first keepsLeft (.inl rfl), second keepsRight (.inl rfl), plain,
            Option.map_id, id_eq]
      | plus | minus =>
          simp only [read?, value?, first keepsLeft (.inl rfl), second keepsRight (.inl rfl)]
          cases value? columns left <;> cases value? columns right <;> simp
      | _ => cases arithmetic

/-- With nothing before it, an expression that keeps its products is read with
its value. -/
theorem read?_none_eq_value? {columns : String → Int} {e : Expr} (arithmetic : IsArithmetic e)
    (keeps : KeepsProducts e) : read? columns none e = value? columns e := by
  have plain : timesBefore none = id := rfl
  rw [read?_eq_value? arithmetic keeps (.inl rfl), plain, Option.map_id, id_eq]

/-! ### Products from the left -/

/-- An expression behind the product that stands before it, if one does. -/
def productBefore (before : Option Expr) (e : Expr) : Expr :=
  before.elim e (.binary · .multiply e)

/-- The expression nested as it is read, behind a product that stands before
it. -/
def leftGrouped (before : Option Expr) : Expr → Expr
  | .binary left .multiply right => leftGrouped (some (leftGrouped before left)) right
  | .binary left .modulo right => .binary (leftGrouped before left) .modulo (leftGrouped none right)
  | .binary left op right =>
      productBefore before (.binary (leftGrouped none left) op (leftGrouped none right))
  | e => productBefore before e

/-- A product in front of an arithmetic expression is arithmetic. -/
theorem IsArithmetic.productBefore {before : Option Expr} {e : Expr} (arithmetic : IsArithmetic e)
    (arithmeticBefore : ∀ product ∈ before, IsArithmetic product) :
    IsArithmetic (productBefore before e) := by
  cases before with
  | none => exact arithmetic
  | some product => exact .binary rfl (arithmeticBefore product rfl) arithmetic

/-- Nesting an arithmetic expression as it is read keeps it arithmetic. -/
theorem IsArithmetic.leftGrouped {e : Expr} (arithmetic : IsArithmetic e) :
    ∀ before, (∀ product ∈ before, IsArithmetic product) →
      IsArithmetic (leftGrouped before e) := by
  have nothing : ∀ product ∈ (none : Option Expr), IsArithmetic product := fun _ => nofun
  induction arithmetic with
  | column table name => exact fun _ => (IsArithmetic.column table name).productBefore
  | @binary left right op arithmetic _ _ first second =>
      intro before arithmeticBefore
      cases op with
      | multiply =>
          refine second _ ?_
          rintro product ⟨⟩
          exact first before arithmeticBefore
      | modulo => exact .binary rfl (first before arithmeticBefore) (second none nothing)
      | plus | minus =>
          exact (IsArithmetic.binary rfl (first none nothing) (second none nothing)).productBefore
            arithmeticBefore
      | _ => cases arithmetic

/-- A product in front of an expression without a bare remainder keeps
products. -/
theorem keepsProducts_productBefore {before : Option Expr} {e : Expr} (keeps : KeepsProducts e)
    (noRemainder : hasBareRemainder e = false)
    (keepsBefore : ∀ product ∈ before, KeepsProducts product) :
    KeepsProducts (productBefore before e) := by
  cases before with
  | none => exact keeps
  | some product => exact ⟨keepsBefore product rfl, keeps, fun _ => noRemainder⟩

/-- Nested as it is read, an expression has no remainder right of a product. -/
theorem keepsProducts_leftGrouped {e : Expr} (arithmetic : IsArithmetic e) :
    ∀ before, (∀ product ∈ before, KeepsProducts product) →
      KeepsProducts (leftGrouped before e) := by
  have nothing : ∀ product ∈ (none : Option Expr), KeepsProducts product := fun _ => nofun
  induction arithmetic with
  | column table name => exact fun _ => keepsProducts_productBefore trivial rfl
  | @binary left right op arithmetic _ _ first second =>
      intro before keepsBefore
      cases op with
      | multiply =>
          refine second _ ?_
          rintro product ⟨⟩
          exact first before keepsBefore
      | modulo => exact ⟨first before keepsBefore, second none nothing, nofun⟩
      | plus | minus =>
          exact keepsProducts_productBefore ⟨first none nothing, second none nothing, nofun⟩ rfl
            keepsBefore
      | _ => cases arithmetic

/-- Regrouping behind a product regroups the whole. -/
theorem Regrouped.productBefore {e e' : Expr} (regrouped : Regrouped e e')
    (before : Option Expr) : Regrouped (productBefore before e) (productBefore before e') := by
  cases before with
  | none => exact regrouped
  | some product => exact .binary .multiply (.refl product) regrouped

/-- What stands before a product or a remainder moves into its left operand. -/
theorem regrouped_productBefore (op : BinaryOp) (level : op.precedence = 5)
    (before : Option Expr) (left right : Expr) :
    Regrouped (productBefore before (.binary left op right))
      (.binary (productBefore before left) op right) := by
  cases before with
  | none => exact .refl _
  | some product => exact .regroup rfl level product left right

/-- An expression is regrouped into the nesting in which it is read. -/
theorem regrouped_leftGrouped {e : Expr} (arithmetic : IsArithmetic e) :
    ∀ before, Regrouped (productBefore before e) (leftGrouped before e) := by
  induction arithmetic with
  | column table name => exact fun _ => .refl _
  | @binary left right op arithmetic _ _ first second =>
      intro before
      cases op with
      | multiply =>
          have moved := regrouped_productBefore .multiply rfl before left right
          have onLeft := Regrouped.binary .multiply (first before) (.refl right)
          exact moved.trans (onLeft.trans (second (some (leftGrouped before left))))
      | modulo =>
          have moved := regrouped_productBefore .modulo rfl before left right
          exact moved.trans (.binary .modulo (first before) (second none))
      | plus => exact (Regrouped.binary .plus (first none) (second none)).productBefore before
      | minus => exact (Regrouped.binary .minus (first none) (second none)).productBefore before
      | _ => cases arithmetic

/-- The value of the nesting in which an expression is read is the value that
is read. -/
theorem value?_leftGrouped {columns : String → Int} {e : Expr} (arithmetic : IsArithmetic e) :
    value? columns (leftGrouped none e) = read? columns none e := by
  have grouped := arithmetic.leftGrouped none (fun _ => nofun)
  have keeps := keepsProducts_leftGrouped arithmetic none (fun _ => nofun)
  have regrouped : Regrouped e (leftGrouped none e) := regrouped_leftGrouped arithmetic none
  rw [regrouped.read?_eq, read?_none_eq_value? grouped keeps]

/-! ### What is written -/

/-- The columns of an expression without their tables. -/
def unqualified : Expr → Expr
  | .column _ name => .column none name
  | .binary left op right => .binary (unqualified left) op (unqualified right)
  | e => e

theorem operandPrecedence?_unqualified (e : Expr) :
    operandPrecedence? (unqualified e) = operandPrecedence? e := by
  cases e <;> rfl

/-- Taking tables off changes no parentheses. -/
theorem needsParens_unqualified (op : BinaryOp) (isRight : Bool) (e : Expr) :
    needsParens op isRight (unqualified e) = needsParens op isRight e := by
  rw [needsParens, needsParens, operandPrecedence?_unqualified]

/-- Taking tables off changes nothing of what is read. -/
theorem read?_unqualified {columns : String → Int} {e : Expr} (arithmetic : IsArithmetic e) :
    ∀ before, read? columns before (unqualified e) = read? columns before e := by
  induction arithmetic with
  | column table name => exact fun _ => rfl
  | @binary left right op _ _ _ first second =>
      intro before
      cases op <;> simp only [unqualified, read?, first, second]

/-- Without qualified columns, an expression is written like the one without
tables. -/
theorem IsArithmetic.sql_unqualified {e : Expr} (arithmetic : IsArithmetic e) (doubled : Bool) :
    (unqualified e).sql ⟨doubled, false⟩ = e.sql ⟨doubled, false⟩ := by
  induction arithmetic with
  | column table name => cases table <;> rfl
  | binary _ _ _ first second =>
      simp only [unqualified, Expr.sql, first, second, needsParens_unqualified]

theorem IsArithmetic.isLegible_unqualified {e : Expr} (arithmetic : IsArithmetic e) :
    (flatten (unqualified e)).IsLegible false := by
  induction arithmetic with
  | column table name => exact ⟨name, nofun, rfl⟩
  | binary _ _ _ first second => exact .join (second.enclosed _) (first.enclosed _)

/-- An arithmetic expression is written as the text of its chain. -/
theorem IsArithmetic.sql_writes {e : Expr} (arithmetic : IsArithmetic e) (doubled : Bool) :
    (e.sql ⟨doubled, false⟩).Writes ((flatten e).text doubled) := by
  induction arithmetic with
  | column table name =>
      cases table with
      | none => exact ⟨.text _, rfl⟩
      | some table => exact ⟨.text _, rfl⟩
  | binary _ _ _ first second => exact sql_writes_binary _ first second

/-- An arithmetic expression compiles to the text of its chain, and binds
nothing. -/
theorem IsArithmetic.compile_eq {e : Expr} (arithmetic : IsArithmetic e)
    (options : CompileOptions) :
    e.compile options =
      .ok ⟨String.ofList ((flatten e).text options.style.percentsDoubled), [], []⟩ := by
  refine compile_eq_of_writes ?_ (arithmetic.sql_writes _)
  intro spelling
  cases arithmetic <;> rfl

/-- Tables are not written, so the chain without them has the same text. -/
theorem IsArithmetic.text_unqualified {e : Expr} (arithmetic : IsArithmetic e) (doubled : Bool) :
    (flatten (unqualified e)).text doubled = (flatten e).text doubled := by
  have plain : IsArithmetic (unqualified e) := by
    induction arithmetic with
    | column table name => exact .column none name
    | binary arithmetic _ _ first second => exact .binary arithmetic first second
  rw [← (plain.sql_writes doubled).chars, ← (arithmetic.sql_writes doubled).chars,
    arithmetic.sql_unqualified]

/-- Arithmetic expressions with one text are read alike. -/
theorem IsArithmetic.read?_eq_of_compile_eq {columns : String → Int} {options : CompileOptions}
    {e e' : Expr} (arithmetic : IsArithmetic e) (arithmetic' : IsArithmetic e')
    (same : e.compile options = e'.compile options) :
    read? columns none e = read? columns none e' := by
  rw [arithmetic.compile_eq, arithmetic'.compile_eq, Except.ok.injEq, CompiledStatement.mk.injEq,
    ← arithmetic.text_unqualified, ← arithmetic'.text_unqualified] at same
  have sameText := congrArg (· ++ []) (String.ofList_injective same.1)
  have nothing : EndsChain [] := fun _ first => nomatch first
  have regrouped := regrouped_of_flatten_eq (Chain.text_injective
    arithmetic.isLegible_unqualified arithmetic'.isLegible_unqualified nothing nothing sameText).1
  rw [← read?_unqualified arithmetic, ← read?_unqualified arithmetic', regrouped.read?_eq]

end Grouping

end ColumnarSql
