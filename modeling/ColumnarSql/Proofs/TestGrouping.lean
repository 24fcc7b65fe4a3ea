/-
Module: ColumnarSql.Proofs.TestGrouping
Purpose: The texts of tests for NULL, of tests against a list and of fields of
  dates beside operators: where they show what they are about, and where not.
Main exports:
  Fragment.append_assoc, Fragment.fault_append, length_spellPieces_insert,
  Fragment.compiled_parenthesized_ne_iff, Expr.compile_test_ne_iff
-/
import ColumnarSql.Proofs.BindingModes
import ColumnarSql.Proofs.CompileFailures

namespace ColumnarSql

/-!
A test is written behind its operand, and the operand is written as it is,
without parentheses.  As an operand of its own a test has none either.  So
`(a = b) IS NULL` and `a = (b IS NULL)` have one text, and the two are told
apart only if `b` has parentheses beside the operator.  A field that has no
function is written as the date alone, and hides an operator in the same way.
-/

namespace Fragment

/-! ### Parts of a fragment -/

/-- Writing fragments one after the other is associative. -/
theorem append_assoc (a b c : Fragment) : a ++ b ++ c = a ++ (b ++ c) := by
  cases first : a.fault with
  | some error => rw [append_of_fault first, append_of_fault first, append_of_fault first]
  | none =>
      rw [append_of_complete first, append_of_complete first (b ++ c)]
      cases second : b.fault with
      | some error => rw [append_of_fault rfl, append_of_fault second, second]
      | none => rw [append_of_complete rfl, append_of_complete second, List.append_assoc]

/-- The first fault counts. -/
theorem fault_append (a b : Fragment) : (a ++ b).fault = a.fault.or b.fault := by
  cases stopped : a.fault with
  | some error => rw [append_of_fault stopped, stopped, Option.some_or]
  | none => rw [append_of_complete stopped, Option.none_or]

/-- A fragment compiles exactly if it is complete. -/
theorem exists_compiled_iff {fragment : Fragment} {options : CompileOptions} :
    (∃ compiled, fragment.compiled options = .ok compiled) ↔ fragment.fault = none := by
  cases stopped : fragment.fault <;> simp [compiled, spell, stopped]

end Fragment

/-! ### One more text -/

/-- One more text lengthens what is spelled by its own length, since it binds
nothing. -/
theorem length_spellBound_insert (style : ParameterStyle) (s : String) (after : List Piece) :
    ∀ (before : List Piece) (earlier : List Parameter),
      (spellBound style earlier (before ++ .text s :: after)).1.length =
        (spellBound style earlier (before ++ after)).1.length + s.length
  | [], earlier => by
      simp only [List.nil_append, spellBound, String.length_append]
      omega
  | .text t :: before, earlier => by
      have later := length_spellBound_insert style s after before earlier
      simp only [List.cons_append, spellBound, String.length_append, later]
      omega
  | .bound key value :: before, earlier => by
      have later := length_spellBound_insert style s after before
        (earlier ++ [Parameter.next earlier key value])
      simp only [List.cons_append, spellBound, String.length_append, later]
      omega

theorem length_spellLiteral_insert (style : ParameterStyle) (s : String) (after : List Piece) :
    ∀ before : List Piece,
      (spellLiteral style (before ++ .text s :: after)).length =
        (spellLiteral style (before ++ after)).length + s.length
  | [] => by
      simp only [List.nil_append, spellLiteral, String.length_append]
      omega
  | .text t :: before => by
      have later := length_spellLiteral_insert style s after before
      simp only [List.cons_append, spellLiteral, String.length_append, later]
      omega
  | .bound key value :: before => by
      have later := length_spellLiteral_insert style s after before
      simp only [List.cons_append, spellLiteral, String.length_append, later]
      omega

/-- A text between pieces adds its own length, for it changes neither the names
nor the order of parameters. -/
theorem length_spellPieces_insert (options : CompileOptions) (earlier : List Parameter)
    (before : List Piece) (s : String) (after : List Piece) :
    (spellPieces options earlier (before ++ .text s :: after)).1.length =
      (spellPieces options earlier (before ++ after)).1.length + s.length := by
  rw [spellPieces, spellPieces]
  split
  · exact length_spellLiteral_insert options.style s after before
  · exact length_spellBound_insert options.style s after before earlier

namespace Fragment

open ColumnarSql.Expr

/-- A complete fragment compiles to what its pieces spell. -/
theorem compiled_of_complete {fragment : Fragment} (complete : fragment.fault = none)
    (options : CompileOptions) :
    fragment.compiled options =
      .ok ⟨(spellPieces options [] fragment.pieces).1, (spellPieces options [] fragment.pieces).2,
        []⟩ := by
  simp only [compiled, spell, complete]

/-- Parentheses neither add a fault nor remove one. -/
theorem fault_parenthesized_eq (condition : Bool) (fragment : Fragment) :
    (parenthesized condition fragment).fault = fragment.fault := by
  cases condition with
  | false => rfl
  | true =>
      rw [parenthesized, if_pos rfl, fault_append, fault_append]
      exact (Option.or_none).trans (Option.none_or)

/-- The two parentheses make a text longer. -/
theorem length_spellPieces_parenthesized (options : CompileOptions) {before inner : Fragment}
    (first : before.fault = none) (second : inner.fault = none) (after : Fragment) :
    (spellPieces options [] (before ++ parenthesized true inner ++ after).pieces).1.length =
      (spellPieces options [] (before ++ (inner ++ after)).pieces).1.length + 2 := by
  have bare : (before ++ (inner ++ after)).pieces =
      before.pieces ++ (inner.pieces ++ after.pieces) := by
    rw [append_of_complete first, append_of_complete second]
  have enclosed : (before ++ parenthesized true inner ++ after).pieces =
      before.pieces ++ .text "(" :: (inner.pieces ++ .text ")" :: after.pieces) := by
    rw [append_assoc, append_of_complete first,
      append_of_complete (second ▸ fault_parenthesized_eq true inner), parenthesized, if_pos rfl,
      append_assoc, append_of_complete (fault_text "("), append_of_complete second]
    simp [text]
  rw [enclosed, bare, length_spellPieces_insert, ← List.append_assoc, length_spellPieces_insert,
    List.append_assoc]
  rfl

/-- Parentheses show in a text that can be compiled. -/
theorem compiled_parenthesized_ne_iff (options : CompileOptions) (condition : Bool)
    (before inner after : Fragment) :
    (before ++ parenthesized condition inner ++ after).compiled options ≠
        (before ++ (inner ++ after)).compiled options ↔
      (∃ compiled,
          (before ++ parenthesized condition inner ++ after).compiled options = .ok compiled) ∧
        condition = true := by
  have sameFault : (before ++ parenthesized condition inner ++ after).fault =
      (before ++ (inner ++ after)).fault := by
    rw [append_assoc, fault_append, fault_append, fault_append, fault_append,
      fault_parenthesized_eq]
  rw [exists_compiled_iff]
  cases condition with
  | false =>
      rw [append_assoc]
      simp [parenthesized]
  | true =>
      cases stopped : (before ++ (inner ++ after)).fault with
      | some error =>
          rw [compiled_of_fault (sameFault.trans stopped), compiled_of_fault stopped]
          simp [sameFault, stopped]
      | none =>
          have complete := sameFault.trans stopped
          obtain ⟨first, rest⟩ := fault_append_eq_none_iff.mp stopped
          have longer := length_spellPieces_parenthesized options first
            (fault_append_eq_none_iff.mp rest).1 after
          rw [compiled_of_complete complete, compiled_of_complete stopped]
          refine ⟨fun _ => ⟨complete, rfl⟩, fun _ same => ?_⟩
          rw [Except.ok.injEq, CompiledStatement.mk.injEq] at same
          rw [same.1] at longer
          omega

end Fragment

/-! ### Tests and fields beside operators -/

namespace Expr

variable (spelling : Spelling)

/-- What is written behind the operand of a test against a list. -/
def listTestSql (list : List Expr) (negated : Bool) : Fragment :=
  .text (" " ++ notWord negated ++ "IN (") ++ .joinWith ", " (sqlList spelling list) ++ .text ")"

/-- A test against a list writes its operand without parentheses, and then the
list. -/
theorem sql_inList {list : List Expr} (nonempty : list ≠ []) (e : Expr) (negated : Bool) :
    (inList e list negated).sql spelling = e.sql spelling ++ listTestSql spelling list negated := by
  have notEmpty : ¬ list.isEmpty = true := by simpa using nonempty
  rw [sql, if_neg notEmpty, listTestSql, Fragment.append_assoc, Fragment.append_assoc,
    Fragment.append_assoc]

/-- What has no precedence of its own stands bare beside every operator. -/
theorem needsParens_of_bare {op : BinaryOp} {isRight : Bool} {e : Expr}
    (bare : operandPrecedence? e = none) : needsParens op isRight e = false := by
  rw [needsParens, bare]

/-- An operation that binds tighter stands bare. -/
theorem needsParens_of_tighter {op tighter : BinaryOp} {isRight : Bool} {left right : Expr}
    (binds : op.precedence < tighter.precedence) :
    needsParens op isRight (.binary left tighter right) = false := by
  have different : ¬ tighter.precedence = op.precedence := by omega
  have notLooser : ¬ tighter.precedence < op.precedence := by omega
  simp [needsParens, operandPrecedence?, different, notLooser]

/-- A right operand without parentheses. -/
theorem sql_binary_of_bare {left right : Expr} {op : BinaryOp}
    (bare : needsParens op true right = false) :
    (binary left op right).sql spelling =
      parenthesized (needsParens op false left) (left.sql spelling) ++
        .text (" " ++ op.text spelling.percentsDoubled ++ " ") ++ right.sql spelling := by
  rw [sql, bare]
  rfl

/-- A test of an operation and an operation on a test have different texts
exactly if they compile and the tested operand has parentheses beside the
operator; for a negation, exactly if it has parentheses behind the negating
word.  A field without a function never shows that it encloses an
operation. -/
theorem compile_test_ne_iff (options : CompileOptions) (a b : Expr) (op : BinaryOp)
    (negated : Bool) :
    ((isNull (.binary a op b) negated).compile options ≠
          (binary a op (.isNull b negated)).compile options ↔
        (∃ compiled, (isNull (.binary a op b) negated).compile options = .ok compiled) ∧
          needsParens op true b = true) ∧
      (∀ list : List Expr, list ≠ [] →
        ((inList (.binary a op b) list negated).compile options ≠
            (binary a op (.inList b list negated)).compile options ↔
          (∃ compiled, (inList (.binary a op b) list negated).compile options = .ok compiled) ∧
            needsParens op true b = true)) ∧
      ((isNull (.not a) negated).compile options ≠ (not (.isNull a negated)).compile options ↔
        (∃ compiled, (isNull (.not a) negated).compile options = .ok compiled) ∧
          a.isBinary = true) ∧
      (∀ (field : String) (tighter : BinaryOp) (t t' t'' : Option String) (x y z : String),
        extractFunction? field = none → op.precedence < tighter.precedence →
          (binary (.extract field (.binary (.column t x) op (.column t' y))) tighter
              (.column t'' z)).compile options =
            (binary (.column t x) op (.binary (.column t' y) tighter (.column t'' z))).compile
              options) := by
  refine ⟨?null, ?list, ?negation, ?field⟩
  case null =>
    have bare : needsParens op true (.isNull b negated) = false := needsParens_of_bare rfl
    simp only [compile, labeledSql, sql_binary_of_bare _ bare]
    simp only [sql]
    exact Fragment.compiled_parenthesized_ne_iff options _ _ _ _
  case list =>
    intro list nonempty
    have bare : needsParens op true (.inList b list negated) = false := needsParens_of_bare rfl
    simp only [compile, labeledSql, sql_binary_of_bare _ bare, sql_inList _ nonempty]
    rw [sql]
    exact Fragment.compiled_parenthesized_ne_iff options _ _ _ _
  case negation =>
    simp only [compile, labeledSql, sql]
    exact Fragment.compiled_parenthesized_ne_iff options _ _ _ _
  case field =>
    intro field tighter t t' t'' x y z unknown binds
    have column : ∀ (o : BinaryOp) (isRight : Bool) (t : Option String) (n : String),
        needsParens o isRight (.column t n) = false := fun o isRight t n => needsParens_of_bare rfl
    have hidden : needsParens tighter false
        (.extract field (.binary (.column t x) op (.column t' y))) = false :=
      needsParens_of_bare rfl
    simp only [compile, labeledSql, sql, unknown, column, hidden, needsParens_of_tighter binds,
      parenthesized, Bool.false_eq_true, if_false, Fragment.append_assoc]

/-- `(a + (b = c)) IN (1)` keeps its grouping, since the comparison has
parentheses, and a week does not. -/
theorem compile_test_ne_iff_comparison :
    (inList (.binary (.column none "a") .plus (.binary (.column none "b") .eq (.column none "c")))
          [.literal (.int 1)] false).compile ⟨false, .named⟩ ≠
        (binary (.column none "a") .plus (.inList (.binary (.column none "b") .eq
          (.column none "c")) [.literal (.int 1)] false)).compile ⟨false, .named⟩ ∧
      (binary (.extract "week" (.binary (.column none "a") .plus (.column none "b"))) .multiply
          (.column none "c")).compile ⟨false, .named⟩ =
        (binary (.column none "a") .plus (.binary (.column none "b") .multiply
          (.column none "c"))).compile ⟨false, .named⟩ := by
  have law := compile_test_ne_iff ⟨false, .named⟩ (.column none "a")
    (.binary (.column none "b") .eq (.column none "c")) .plus false
  constructor
  · exact (law.2.1 [.literal (.int 1)] (by simp)).mpr ⟨⟨_, rfl⟩, rfl⟩
  · exact law.2.2.2 "week" .multiply none none none "a" "b" "c" (by decide) (by decide)

/-- `(a = b) IS NULL`, `(a = b) IN (1)`, `(NOT a) IS NULL` and a week of
`a + b` lose their grouping. -/
theorem compile_test_eq :
    (isNull (.binary (.column none "a") .eq (.column none "b")) false).compile ⟨false, .named⟩ =
        (binary (.column none "a") .eq (.isNull (.column none "b") false)).compile
          ⟨false, .named⟩ ∧
      (inList (.binary (.column none "a") .eq (.column none "b")) [.literal (.int 1)]
          false).compile ⟨false, .named⟩ =
        (binary (.column none "a") .eq (.inList (.column none "b") [.literal (.int 1)]
          false)).compile ⟨false, .named⟩ ∧
      (isNull (.not (.column none "a")) false).compile ⟨false, .named⟩ =
        (not (.isNull (.column none "a") false)).compile ⟨false, .named⟩ ∧
      (binary (.extract "week" (.binary (.column none "a") .plus (.column none "b"))) .multiply
          (.column none "c")).compile ⟨false, .named⟩ =
        (binary (.column none "a") .plus (.binary (.column none "b") .multiply
          (.column none "c"))).compile ⟨false, .named⟩ :=
  ⟨rfl, rfl, rfl, rfl⟩

end Expr

end ColumnarSql
