/-
Module: ColumnarSql.Proofs.ArithmeticDivergence
Purpose: Which arithmetic expressions are read with another value than they
  have.
Main exports:
  columnNames, AgreeOn, exists_both, Yields, Neutral, Adjustable, Apart,
  exists_apart, compile_shows_value
-/
import Mathlib.Data.List.Nodup
import ColumnarSql.Proofs.ArithmeticReading

namespace ColumnarSql

namespace Grouping

/-!
Where a remainder stands bare to the right of a product, the text is read with
another value.  For columns with distinct names a value that shows the
difference can be chosen operand by operand: a `Neutral` operand has no effect
on the rest of the chain, and two values that are `Apart` can be kept so by the
other operand of each operator.
-/

/-! ### Assignments -/

/-- The names of the columns of an arithmetic expression, from left to right. -/
def columnNames : Expr → List String
  | .column _ name => [name]
  | .binary left _ right => columnNames left ++ columnNames right
  | _ => []

/-- Two assignments give the columns of an expression the same values. -/
def AgreeOn (e : Expr) (columns columns' : String → Int) : Prop :=
  ∀ name ∈ columnNames e, columns name = columns' name

section Agreement

variable {columns columns' : String → Int} {left right : Expr} {op : BinaryOp}

theorem AgreeOn.ofLeft (agree : AgreeOn (.binary left op right) columns columns') :
    AgreeOn left columns columns' :=
  fun name member => agree name (List.mem_append_left _ member)

theorem AgreeOn.ofRight (agree : AgreeOn (.binary left op right) columns columns') :
    AgreeOn right columns columns' :=
  fun name member => agree name (List.mem_append_right _ member)

/-- The value depends on the columns of the expression alone. -/
theorem AgreeOn.value?_eq {e : Expr} (arithmetic : IsArithmetic e)
    (agree : AgreeOn e columns columns') : value? columns e = value? columns' e := by
  induction arithmetic with
  | column table name => exact congrArg some (agree name (List.mem_singleton_self name))
  | binary _ _ _ first second => simp only [value?, first agree.ofLeft, second agree.ofRight]

/-- So does what is read. -/
theorem AgreeOn.read?_eq {e : Expr} (arithmetic : IsArithmetic e)
    (agree : AgreeOn e columns columns') :
    ∀ before, read? columns before e = read? columns' before e := by
  induction arithmetic with
  | column table name =>
      intro before
      rw [read?, read?, agree name (List.mem_singleton_self name)]
  | @binary left right op _ _ _ first second =>
      intro before
      cases op <;> simp only [read?, first agree.ofLeft, second agree.ofRight]

/-- What two operands without a common column do under assignments of their own,
they do under one assignment. -/
theorem exists_both {P Q : (String → Int) → Prop}
    (distinct : (columnNames (.binary left op right)).Nodup)
    (first : ∃ columns, P columns) (second : ∃ columns, Q columns)
    (ofLeft : ∀ {columns columns'}, AgreeOn left columns columns' → P columns' → P columns)
    (ofRight : ∀ {columns columns'}, AgreeOn right columns columns' → Q columns' → Q columns) :
    ∃ columns, P columns ∧ Q columns := by
  obtain ⟨forLeft, holdsLeft⟩ := first
  obtain ⟨forRight, holdsRight⟩ := second
  have disjoint : (columnNames left).Disjoint (columnNames right) :=
    List.disjoint_of_nodup_append distinct
  refine ⟨fun name => if name ∈ columnNames left then forLeft name else forRight name, ?_, ?_⟩
  · refine ofLeft ?_ holdsLeft
    intro name member
    exact if_pos member
  · refine ofRight ?_ holdsRight
    intro name member
    exact if_neg fun onLeft => disjoint onLeft member

end Agreement

/-! ### Remainders -/

/-- A small number is its own remainder. -/
theorem result?_modulo_of_lt {x y : Int} (small : x.natAbs < y.natAbs) :
    BinaryOp.modulo.result? x y = some x := by
  have nonzero : y ≠ 0 := by omega
  rw [BinaryOp.result?, if_neg nonzero, Option.some.injEq]
  obtain ⟨m, rfl | rfl⟩ := Int.eq_nat_or_neg x <;> obtain ⟨n, rfl | rfl⟩ := Int.eq_nat_or_neg y <;>
    simp only [Int.natAbs_neg, Int.natAbs_natCast] at small <;>
    simp [Int.tmod_neg, Int.neg_tmod, Int.tmod_eq_of_lt, small]

/-- A number that exceeds the modulus by less than the modulus has the excess as
its remainder. -/
theorem result?_modulo_add {n : Nat} {y : Int} (small : n < y.natAbs) :
    BinaryOp.modulo.result? (y.natAbs + n) y = some (n : Int) := by
  have nonzero : y ≠ 0 := by omega
  rw [BinaryOp.result?, if_neg nonzero, Option.some.injEq]
  obtain ⟨m, rfl | rfl⟩ := Int.eq_nat_or_neg y <;>
    simp only [Int.natAbs_neg, Int.natAbs_natCast] at small ⊢ <;>
    rw [Int.tmod_eq_emod_of_nonneg (by omega)] <;>
    simp [Int.emod_eq_of_lt, small]

/-! ### Values that are had and values that are read -/

/-- An expression has the first value and is read with the second, behind a
product that stands before it. -/
structure Yields (columns : String → Int) (before : Option Int) (e : Expr)
    (had found : Int) : Prop where
  value : value? columns e = some had
  reading : read? columns before e = some found

/-- An expression is one, and is read behind products up to the bound as one
would be. -/
def Neutral (columns : String → Int) (bound : Nat) (e : Expr) : Prop :=
  ∀ before, (timesBefore before 1).natAbs ≤ bound →
    Yields columns before e 1 (timesBefore before 1)

section Operations

variable {columns columns' : String → Int} {before : Option Int} {left right e : Expr}
  {x x' y y' z z' : Int} {bound : Nat}

theorem Yields.of_agreeOn (arithmetic : IsArithmetic e) (agree : AgreeOn e columns columns')
    (yields : Yields columns' before e x x') : Yields columns before e x x' :=
  ⟨(agree.value?_eq arithmetic).trans yields.value,
    (agree.read?_eq arithmetic before).trans yields.reading⟩

theorem Neutral.of_agreeOn (arithmetic : IsArithmetic e) (agree : AgreeOn e columns columns')
    (neutral : Neutral columns' bound e) : Neutral columns bound e :=
  fun before small => (neutral before small).of_agreeOn arithmetic agree

theorem Yields.plus (first : Yields columns none left x x')
    (second : Yields columns none right y y') :
    Yields columns none (.binary left .plus right) (x + y) (x' + y') :=
  ⟨by simp [value?, first.value, second.value, BinaryOp.result?],
    by simp [read?, first.reading, second.reading, BinaryOp.result?]⟩

theorem Yields.minus (first : Yields columns none left x x')
    (second : Yields columns none right y y') :
    Yields columns none (.binary left .minus right) (x - y) (x' - y') :=
  ⟨by simp [value?, first.value, second.value, BinaryOp.result?],
    by simp [read?, first.reading, second.reading, BinaryOp.result?]⟩

/-- A right factor is read behind the left one. -/
theorem Yields.multiply (first : Yields columns before left x x')
    (second : Yields columns (some x') right y z') :
    Yields columns before (.binary left .multiply right) (x * y) z' :=
  ⟨by simp [value?, first.value, second.value, BinaryOp.result?],
    by simp [read?, first.reading, second.reading]⟩

/-- A remainder is had of the values that are had, and read of those that are
read. -/
theorem Yields.modulo (first : Yields columns before left x x')
    (second : Yields columns none right y y') (had : BinaryOp.modulo.result? x y = some z)
    (found : BinaryOp.modulo.result? x' y' = some z') :
    Yields columns before (.binary left .modulo right) z z' :=
  ⟨by simp [value?, first.value, second.value, had],
    by simp [read?, first.reading, second.reading, found]⟩

/-- A neutral right factor changes neither value. -/
theorem Yields.times_neutral (first : Yields columns before left x x')
    (second : Neutral columns bound right) (small : x'.natAbs ≤ bound) :
    Yields columns before (.binary left .multiply right) x x' := by
  have behind := second (some x') (by simpa using small)
  simpa using first.multiply behind

/-- A sum stands in parentheses behind a product, so its value is multiplied. -/
theorem Neutral.of_sum {op : BinaryOp} (isSum : op.precedence = 4)
    (one : Yields columns none (.binary left op right) 1 1) :
    Neutral columns bound (.binary left op right) := by
  intro before _
  refine ⟨one.value, ?_⟩
  have enclosed : read? columns before (.binary left op right) =
      (read? columns none (.binary left op right)).map (timesBefore before) := by
    cases op with
    | plus | minus =>
        simp only [read?]
        cases read? columns none left <;> cases read? columns none right <;> rfl
    | _ => exact absurd isSum (by decide)
  rw [enclosed, one.reading, Option.map_some]

/-- Behind one, an expression is read as by itself. -/
theorem read?_one (arithmetic : IsArithmetic e) :
    read? columns (some 1) e = read? columns none e := by
  have unchanged : timesBefore (some 1) = timesBefore none := by
    funext x
    simp
  induction arithmetic with
  | column table name => simp only [read?, unchanged]
  | @binary left right op _ _ _ first _ =>
      cases op <;> simp only [read?, first, unchanged]

end Operations

/-! ### Chosen values -/

/-- The columns can be chosen for each value, which is then also read, and for
neutrality up to each bound. -/
structure Adjustable (e : Expr) : Prop where
  takes : ∀ x, ∃ columns, Yields columns none e x x
  neutral : ∀ bound, ∃ columns, Neutral columns (bound + 1) e

/-- Beside an adjustable right operand, the values of a left operand are those of
the whole. -/
theorem Adjustable.exists_yields_of_left {left right : Expr} {op : BinaryOp} {had found : Int}
    (adjustable : Adjustable right) (arithmetic : op.isArithmetic = true)
    (isLeft : IsArithmetic left) (isRight : IsArithmetic right)
    (distinct : (columnNames (.binary left op right)).Nodup)
    (yields : ∃ columns, Yields columns none left had found) :
    ∃ columns, Yields columns none (.binary left op right) had found := by
  cases op with
  | plus =>
      obtain ⟨columns, atLeft, atRight⟩ := exists_both distinct yields (adjustable.takes 0)
        (.of_agreeOn isLeft) (.of_agreeOn isRight)
      exact ⟨columns, by simpa using atLeft.plus atRight⟩
  | minus =>
      obtain ⟨columns, atLeft, atRight⟩ := exists_both distinct yields (adjustable.takes 0)
        (.of_agreeOn isLeft) (.of_agreeOn isRight)
      exact ⟨columns, by simpa using atLeft.minus atRight⟩
  | multiply =>
      obtain ⟨columns, atLeft, atRight⟩ := exists_both distinct yields
        (adjustable.neutral found.natAbs) (.of_agreeOn isLeft) (.of_agreeOn isRight)
      exact ⟨columns, atLeft.times_neutral atRight (by omega)⟩
  | modulo =>
      -- A modulus beyond both values leaves both as they are.
      obtain ⟨columns, atLeft, atRight⟩ := exists_both distinct yields
        (adjustable.takes (had.natAbs + found.natAbs + 1)) (.of_agreeOn isLeft)
        (.of_agreeOn isRight)
      exact ⟨columns, atLeft.modulo atRight (result?_modulo_of_lt (by omega))
        (result?_modulo_of_lt (by omega))⟩
  | _ => cases arithmetic

/-- Arithmetic expressions with distinct columns are adjustable. -/
theorem IsArithmetic.adjustable {e : Expr} (arithmetic : IsArithmetic e) :
    (columnNames e).Nodup → Adjustable e := by
  induction arithmetic with
  | column table name =>
      intro _
      exact ⟨fun x => ⟨fun _ => x, rfl, rfl⟩, fun _ => ⟨fun _ => 1, fun _ _ => ⟨rfl, rfl⟩⟩⟩
  | @binary left right op arithmetic isLeft isRight first second =>
      intro distinct
      have onLeft := first distinct.of_append_left
      have onRight := second distinct.of_append_right
      have takes := fun x =>
        onRight.exists_yields_of_left arithmetic isLeft isRight distinct (onLeft.takes x)
      refine ⟨takes, fun bound => ?_⟩
      cases op with
      | plus | minus =>
          obtain ⟨columns, one⟩ := takes 1
          exact ⟨columns, .of_sum rfl one⟩
      | multiply =>
          obtain ⟨columns, atLeft, atRight⟩ := exists_both distinct (onLeft.neutral bound)
            (onRight.neutral bound) (.of_agreeOn isLeft) (.of_agreeOn isRight)
          exact ⟨columns, fun before small => (atLeft before small).times_neutral atRight small⟩
      | modulo =>
          obtain ⟨columns, atLeft, atRight⟩ := exists_both distinct (onLeft.neutral bound)
            (onRight.takes (bound + 2)) (.of_agreeOn isLeft) (.of_agreeOn isRight)
          refine ⟨columns, fun before small => (atLeft before small).modulo atRight ?_ ?_⟩
          · exact result?_modulo_of_lt (by omega)
          · exact result?_modulo_of_lt (by omega)
      | _ => cases arithmetic

/-! ### Values apart -/

/-- Two numbers are large, and far from each other in magnitude. -/
def Apart (distance : Nat) (x y : Int) : Prop :=
  distance ≤ x.natAbs ∧ distance ≤ y.natAbs ∧
    (x.natAbs + distance ≤ y.natAbs ∨ y.natAbs + distance ≤ x.natAbs)

/-- A bare remainder is read with another value than it has, behind a suitable
product. -/
theorem exists_apart_behind {e : Expr} (arithmetic : IsArithmetic e) :
    (columnNames e).Nodup → hasBareRemainder e = true → ∀ distance,
      ∃ product had found, (∃ columns, Yields columns (some product) e had found) ∧
        Apart distance (product * had) found := by
  induction arithmetic with
  | column table name => exact fun _ => nofun
  | @binary left right op arithmetic isLeft isRight first second =>
      intro distinct bare distance
      have distinctLeft : (columnNames left).Nodup := distinct.of_append_left
      have distinctRight : (columnNames right).Nodup := distinct.of_append_right
      cases op with
      | multiply =>
          rcases Bool.or_eq_true_iff.mp bare with onLeft | onRight
          · obtain ⟨product, had, found, yields, apart⟩ := first distinctLeft onLeft distance
            obtain ⟨columns, atLeft, atRight⟩ := exists_both distinct yields
              ((isRight.adjustable distinctRight).neutral found.natAbs) (.of_agreeOn isLeft)
              (.of_agreeOn isRight)
            exact ⟨product, had, found, ⟨columns, atLeft.times_neutral atRight (by omega)⟩, apart⟩
          · obtain ⟨product, had, found, yields, apart⟩ := second distinctRight onRight distance
            obtain ⟨columns, atLeft, atRight⟩ := exists_both distinct
              ((isLeft.adjustable distinctLeft).neutral product.natAbs) yields
              (.of_agreeOn isLeft) (.of_agreeOn isRight)
            have passed := atLeft (some product) (by simp)
            rw [timesBefore_some, Int.mul_one] at passed
            have behind := passed.multiply atRight
            rw [Int.one_mul] at behind
            exact ⟨product, had, found, ⟨columns, behind⟩, apart⟩
      | modulo =>
          -- Of one by m the remainder is one, and behind 2 m - 1 what is read is m - 1.
          obtain ⟨columns, atLeft, atRight⟩ := exists_both distinct
            ((isLeft.adjustable distinctLeft).neutral (2 * distance + 3))
            ((isRight.adjustable distinctRight).takes (distance + 2)) (.of_agreeOn isLeft)
            (.of_agreeOn isRight)
          have passed := atLeft (some (2 * distance + 3)) (by simp only [timesBefore_some]; omega)
          rw [timesBefore_some, Int.mul_one] at passed
          have had : BinaryOp.modulo.result? 1 (distance + 2) = some 1 :=
            result?_modulo_of_lt (by omega)
          have found : BinaryOp.modulo.result? (2 * distance + 3) (distance + 2) =
              some ((distance + 1 : Nat) : Int) := by
            have excess := result?_modulo_add (n := distance + 1) (y := distance + 2) (by omega)
            convert excess using 2
            omega
          refine ⟨_, _, _, ⟨columns, passed.modulo atRight had found⟩, ?_⟩
          simp only [Apart]
          omega
      | plus | minus => cases bare
      | _ => cases arithmetic

/-- A large dividend keeps the distance of two moduli. -/
theorem Apart.exists_dividend {distance : Nat} {x y : Int} (apart : Apart (distance + 1) x y) :
    ∃ dividend z z', BinaryOp.modulo.result? dividend x = some z ∧
      BinaryOp.modulo.result? dividend y = some z' ∧ Apart distance z z' := by
  obtain ⟨largeLeft, largeRight, rightFar | leftFar⟩ := apart
  · refine ⟨x.natAbs + distance, distance, x.natAbs + distance,
      result?_modulo_add (by omega), result?_modulo_of_lt (by omega), ?_⟩
    simp only [Apart]
    omega
  · refine ⟨y.natAbs + distance, y.natAbs + distance, distance,
      result?_modulo_of_lt (by omega), result?_modulo_add (by omega), ?_⟩
    simp only [Apart]
    omega

/-- Values of a right operand that are apart are kept so, if less far. -/
theorem exists_apart_of_right {left right : Expr} {op : BinaryOp} {distance : Nat}
    {had found : Int} (arithmetic : op.isArithmetic = true) (isLeft : IsArithmetic left)
    (isRight : IsArithmetic right) (distinct : (columnNames (.binary left op right)).Nodup)
    (yields : ∃ columns, Yields columns none right had found)
    (apart : Apart (distance + 1) had found) :
    ∃ had' found', (∃ columns, Yields columns none (.binary left op right) had' found') ∧
      Apart distance had' found' := by
  have adjustable := isLeft.adjustable distinct.of_append_left
  have operands := fun x => exists_both distinct (adjustable.takes x) yields (.of_agreeOn isLeft)
    (.of_agreeOn isRight)
  have nearer : Apart distance had found := by
    simp only [Apart] at apart ⊢
    omega
  cases op with
  | plus =>
      obtain ⟨columns, atLeft, atRight⟩ := operands 0
      exact ⟨had, found, ⟨columns, by simpa using atLeft.plus atRight⟩, nearer⟩
  | minus =>
      obtain ⟨columns, atLeft, atRight⟩ := operands 0
      refine ⟨-had, -found, ⟨columns, by simpa using atLeft.minus atRight⟩, ?_⟩
      simpa only [Apart, Int.natAbs_neg] using nearer
  | multiply =>
      obtain ⟨columns, atLeft, atRight⟩ := operands 1
      have behind : Yields columns (some 1) right had found :=
        ⟨atRight.value, (read?_one isRight).trans atRight.reading⟩
      have product := atLeft.multiply behind
      rw [Int.one_mul] at product
      exact ⟨had, found, ⟨columns, product⟩, nearer⟩
  | modulo =>
      obtain ⟨dividend, z, z', remainder, remainder', farther⟩ := apart.exists_dividend
      obtain ⟨columns, atLeft, atRight⟩ := operands dividend
      exact ⟨z, z', ⟨columns, atLeft.modulo atRight remainder remainder'⟩, farther⟩
  | _ => cases arithmetic

/-- With distinct columns, an expression with a remainder bare behind a product
is read with another value than it has. -/
theorem exists_apart {e : Expr} (arithmetic : IsArithmetic e) :
    (columnNames e).Nodup → ¬ KeepsProducts e → ∀ distance,
      ∃ had found, (∃ columns, Yields columns none e had found) ∧ Apart distance had found := by
  induction arithmetic with
  | column table name => exact fun _ lost => absurd trivial lost
  | @binary left right op arithmetic isLeft isRight first second =>
      intro distinct lost distance
      have distinctLeft : (columnNames left).Nodup := distinct.of_append_left
      have distinctRight : (columnNames right).Nodup := distinct.of_append_right
      by_cases keepsLeft : KeepsProducts left
      · by_cases keepsRight : KeepsProducts right
        · -- Both operands keep their products, so the whole is the product that does not.
          obtain ⟨rfl, bare⟩ : op = .multiply ∧ hasBareRemainder right = true := by
            by_contra none
            refine lost ⟨keepsLeft, keepsRight, fun isProduct => ?_⟩
            exact Bool.eq_false_iff.mpr fun bare => none ⟨isProduct, bare⟩
          obtain ⟨product, had, found, yields, apart⟩ :=
            exists_apart_behind isRight distinctRight bare distance
          obtain ⟨columns, atLeft, atRight⟩ := exists_both distinct
            ((isLeft.adjustable distinctLeft).takes product) yields (.of_agreeOn isLeft)
            (.of_agreeOn isRight)
          exact ⟨product * had, found, ⟨columns, atLeft.multiply atRight⟩, apart⟩
        · obtain ⟨had, found, yields, apart⟩ := second distinctRight keepsRight (distance + 1)
          exact exists_apart_of_right arithmetic isLeft isRight distinct yields apart
      · obtain ⟨had, found, yields, apart⟩ := first distinctLeft keepsLeft distance
        have adjustable := isRight.adjustable distinctRight
        exact ⟨had, found,
          adjustable.exists_yields_of_left arithmetic isLeft isRight distinct yields, apart⟩

/-! ### What a text shows of a value -/

/-- Regrouping does not change what is written. -/
theorem IsArithmetic.compile_eq_of_regrouped {e e' : Expr} (arithmetic : IsArithmetic e)
    (arithmetic' : IsArithmetic e') (regrouped : Regrouped e e') (options : CompileOptions) :
    e.compile options = e'.compile options := by
  rw [arithmetic.compile_eq, arithmetic'.compile_eq, regrouped.flatten_eq.2]

/-- The text of an arithmetic expression shows its value as long as no product
has a bare remainder in its right factor: two such expressions with one text
have one value under all assignments.  No other expression with distinct
columns may join them, since each has the text of one of them and, under some
assignment without a zero modulus, another value. -/
theorem compile_shows_value (options : CompileOptions) {e : Expr} (arithmetic : IsArithmetic e) :
    (∃ text, e.compile options = .ok ⟨text, [], []⟩) ∧
      (KeepsProducts e → ∀ e', IsArithmetic e' → KeepsProducts e' →
        e.compile options = e'.compile options →
          ∀ columns, value? columns e = value? columns e') ∧
      ((columnNames e).Nodup → ¬ KeepsProducts e →
        ∃ e', IsArithmetic e' ∧ KeepsProducts e' ∧ e.compile options = e'.compile options ∧
          ∃ columns had found, value? columns e = some had ∧ value? columns e' = some found ∧
            had ≠ found) := by
  refine ⟨⟨_, arithmetic.compile_eq options⟩, ?_, ?_⟩
  · intro keeps e' arithmetic' keeps' same columns
    calc value? columns e
        = read? columns none e := (read?_none_eq_value? arithmetic keeps).symm
      _ = read? columns none e' := arithmetic.read?_eq_of_compile_eq arithmetic' same
      _ = value? columns e' := read?_none_eq_value? arithmetic' keeps'
  · intro distinct lost
    have grouped := arithmetic.leftGrouped none (fun _ => nofun)
    have regrouped : Regrouped e (leftGrouped none e) := regrouped_leftGrouped arithmetic none
    obtain ⟨had, found, ⟨columns, yields⟩, apart⟩ := exists_apart arithmetic distinct lost 1
    refine ⟨leftGrouped none e, grouped, keepsProducts_leftGrouped arithmetic none (fun _ => nofun),
      arithmetic.compile_eq_of_regrouped grouped regrouped options, columns, had, found,
      yields.value, (value?_leftGrouped arithmetic).trans yields.reading, ?_⟩
    rintro rfl
    simp only [Apart] at apart
    omega

/-- `a + (b % c - d)` and `(a + b % c) - d` have one text and one value, while
`a - b * (c % d)` shares its text with an expression of another value. -/
theorem compile_shows_value_nested :
    (∀ columns, value? columns (.binary (.column none "a") .plus
          (.binary (.binary (.column none "b") .modulo (.column none "c")) .minus
            (.column none "d"))) =
        value? columns (.binary (.binary (.column none "a") .plus
          (.binary (.column none "b") .modulo (.column none "c"))) .minus (.column none "d"))) ∧
      ∃ e', IsArithmetic e' ∧ KeepsProducts e' ∧
        Expr.compile ⟨false, .named⟩ (.binary (.column none "a") .minus
            (.binary (.column none "b") .multiply
              (.binary (.column none "c") .modulo (.column none "d")))) =
          e'.compile ⟨false, .named⟩ ∧
        ∃ columns had found, value? columns (.binary (.column none "a") .minus
              (.binary (.column none "b") .multiply
                (.binary (.column none "c") .modulo (.column none "d")))) = some had ∧
            value? columns e' = some found ∧ had ≠ found := by
  have a := IsArithmetic.column none "a"
  have b := IsArithmetic.column none "b"
  have c := IsArithmetic.column none "c"
  have d := IsArithmetic.column none "d"
  have remainder : IsArithmetic (.binary (.column none "b") .modulo (.column none "c")) :=
    .binary rfl b c
  have nested : IsArithmetic (.binary (.column none "a") .plus
      (.binary (.binary (.column none "b") .modulo (.column none "c")) .minus
        (.column none "d"))) := .binary rfl a (.binary rfl remainder d)
  have chained : IsArithmetic (.binary (.binary (.column none "a") .plus
      (.binary (.column none "b") .modulo (.column none "c"))) .minus (.column none "d")) :=
    .binary rfl (.binary rfl a remainder) d
  refine ⟨?_, ?_⟩
  · refine (compile_shows_value ⟨false, .named⟩ nested).2.1 ?_ _ chained ?_ ?_
    · simp [KeepsProducts]
    · simp [KeepsProducts]
    · exact nested.compile_eq_of_regrouped chained (.regroup (by rfl) (by rfl) _ _ _) _
  · refine (compile_shows_value ⟨false, .named⟩ (.binary rfl a (.binary rfl b
      (.binary rfl c d)))).2.2 ?_ ?_
    · simp [columnNames]
    · simp [KeepsProducts, hasBareRemainder]

/-- `a * (b % c)` and `(a * b) % c` are written alike, and for two, three and
two they are two and zero. -/
theorem compile_hides_remainder :
    Expr.compile ⟨false, .named⟩ (.binary (.column none "a") .multiply
          (.binary (.column none "b") .modulo (.column none "c"))) =
        .ok ⟨"a * b % c", [], []⟩ ∧
      Expr.compile ⟨false, .named⟩ (.binary (.binary (.column none "a") .multiply
          (.column none "b")) .modulo (.column none "c")) = .ok ⟨"a * b % c", [], []⟩ ∧
      value? (fun name => if name = "b" then 3 else 2) (.binary (.column none "a") .multiply
          (.binary (.column none "b") .modulo (.column none "c"))) = some 2 ∧
      value? (fun name => if name = "b" then 3 else 2) (.binary
          (.binary (.column none "a") .multiply (.column none "b")) .modulo
          (.column none "c")) = some 0 := by
  refine ⟨?_, ?_, ?_, ?_⟩
  · rfl
  · rfl
  · decide
  · decide

end Grouping

end ColumnarSql
