/-
Module: ColumnarSql.Proofs.OperatorChains
Purpose: Expressions seen as chains of operands with operators between them,
  and the regroupings that keep the chain.
Main exports:
  Operand, Chain, flatten, Regrouped, Regrouped.flatten_eq, exists_last_split,
  regrouped_of_flatten_eq
-/
import ColumnarSql.Expr.Sql

namespace ColumnarSql.Grouping

open ColumnarSql.Expr

/-!
SQL shows an expression as operands with operators between them, and its
nesting only where parentheses stand.  A `Chain` is what is shown, and
`flatten` forgets the rest.  What is forgotten is small: two expressions with
the same chain differ by a `Regrouped` step, which moves parentheses behind an
associative operator to the left.
-/

mutual

/-- What stands between two operators. -/
inductive Operand where
  /-- An expression without an operator of its own. -/
  | atom (expr : Expr)
  | negated (operand : Operand)
  /-- A chain in parentheses. -/
  | group (inner : Chain)

/-- Operands with an operator between neighbours. -/
inductive Chain where
  | single (operand : Operand)
  | link (operand : Operand) (op : BinaryOp) (rest : Chain)

end

namespace Chain

/-- Two chains with an operator between them. -/
def join : Chain → BinaryOp → Chain → Chain
  | .single operand, op, second => .link operand op second
  | .link operand first rest, op, second => .link operand first (rest.join op second)

/-- The operators of a chain outside its parentheses. -/
def operators : Chain → List BinaryOp
  | .single _ => []
  | .link _ op rest => op :: rest.operators

/-- Put parentheses around a chain if asked to. -/
def enclosed (condition : Bool) (chain : Chain) : Chain :=
  if condition then .single (.group chain) else chain

/-- A chain as one operand: with parentheses if it has operators. -/
def asOperand : Chain → Operand
  | .single operand => operand
  | .link operand op rest => .group (.link operand op rest)

@[simp] theorem operators_join : ∀ (c : Chain) (op : BinaryOp) (d : Chain),
    (c.join op d).operators = c.operators ++ op :: d.operators
  | .single _, _, _ => rfl
  | .link _ first rest, op, d => congrArg (first :: ·) (operators_join rest op d)

/-- Joining chains is associative; grouping is kept by parentheses alone. -/
theorem join_assoc : ∀ (c : Chain) (op : BinaryOp) (d : Chain) (op' : BinaryOp) (e : Chain),
    (c.join op d).join op' e = c.join op (d.join op' e)
  | .single _, _, _, _, _ => rfl
  | .link operand first rest, op, d, op', e =>
      congrArg (Chain.link operand first) (join_assoc rest op d op' e)

/-- A joined chain has an operator and is no single operand. -/
theorem join_ne_single (c : Chain) (op : BinaryOp) (d : Chain) (operand : Operand) :
    c.join op d ≠ .single operand := by
  cases c with
  | single _ => exact Chain.noConfusion
  | link _ _ _ => exact Chain.noConfusion

/-- Both parts of a joined chain are smaller than the whole. -/
theorem sizeOf_join : ∀ (c : Chain) (op : BinaryOp) (d : Chain),
    sizeOf c < sizeOf (c.join op d) ∧ sizeOf d < sizeOf (c.join op d)
  | .single operand, op, d => by
      have positive : 0 < sizeOf d := by
        cases d <;> simp only [single.sizeOf_spec, link.sizeOf_spec] <;> omega
      simp only [join, single.sizeOf_spec, link.sizeOf_spec]
      omega
  | .link operand first rest, op, d => by
      have smaller := sizeOf_join rest op d
      simp only [join, link.sizeOf_spec]
      omega

/-- Parentheses do not make a chain smaller. -/
theorem sizeOf_le_enclosed (condition : Bool) (c : Chain) :
    sizeOf c ≤ sizeOf (c.enclosed condition) := by
  cases condition with
  | false => exact Nat.le_refl _
  | true =>
      simp only [enclosed, if_true, single.sizeOf_spec, Operand.group.sizeOf_spec]
      omega

theorem sizeOf_le_asOperand (c : Chain) : sizeOf c ≤ sizeOf c.asOperand + 1 := by
  cases c with
  | single operand =>
      simp only [asOperand, single.sizeOf_spec]
      omega
  | link operand op rest =>
      simp only [asOperand, Operand.group.sizeOf_spec]
      omega

/-- A chain is cut at its last operator of the lowest precedence in one way
only. -/
theorem join_injective {p : Nat} {op op' : BinaryOp} {d d' : Chain}
    (level : op.precedence = p) (level' : op'.precedence = p)
    (above : ∀ o ∈ d.operators, p < o.precedence) (above' : ∀ o ∈ d'.operators, p < o.precedence) :
    ∀ {c c' : Chain}, c.join op d = c'.join op' d' → c = c' ∧ op = op' ∧ d = d'
  | .single _, .single _, same => by
      cases same
      exact ⟨rfl, rfl, rfl⟩
  | .single _, .link _ _ rest, same => by
      cases same
      exact absurd (above op' (by simp)) (by omega)
  | .link _ _ rest, .single _, same => by
      cases same
      exact absurd (above' op (by simp)) (by omega)
  | .link operand first rest, .link operand' first' rest', same => by
      simp only [join, link.injEq] at same
      obtain ⟨rfl, rfl, sameRest⟩ := same
      obtain ⟨rfl, sameOp, sameSecond⟩ := join_injective level level' above above' sameRest
      exact ⟨rfl, sameOp, sameSecond⟩

end Chain

/-! ### The chain of an expression -/

/-- The chain that is written for an expression. -/
def flatten : Expr → Chain
  | .binary left op right =>
      ((flatten left).enclosed (needsParens op false left)).join op
        ((flatten right).enclosed (needsParens op true right))
  | .not e => .single (.negated (flatten e).asOperand)
  | e => .single (.atom e)

/-- The chain of an operand next to an operator. -/
def operandChain (op : BinaryOp) (isRight : Bool) (operand : Expr) : Chain :=
  (flatten operand).enclosed (needsParens op isRight operand)

/-- The chain of an operator joins the chains of its operands, in parentheses
where they need them. -/
theorem flatten_binary (left : Expr) (op : BinaryOp) (right : Expr) :
    flatten (.binary left op right) =
      (operandChain op false left).join op (operandChain op true right) := rfl

/-- An expression is an operation, a negation, or an operand of its own. -/
theorem shape_cases (e : Expr) :
    (∃ left op right, e = .binary left op right) ∨ (∃ inner, e = .not inner) ∨
      flatten e = .single (.atom e) := by
  cases e with
  | binary left op right => exact .inl ⟨left, op, right, rfl⟩
  | not inner => exact .inr (.inl ⟨inner, rfl⟩)
  | _ => exact .inr (.inr rfl)

/-- Nothing is written with parentheses around the whole. -/
theorem flatten_ne_group (e : Expr) (inner : Chain) : flatten e ≠ .single (.group inner) := by
  rcases shape_cases e with ⟨left, op, right, rfl⟩ | ⟨negated, rfl⟩ | isAtom
  · exact Chain.join_ne_single _ _ _ _
  · exact fun same => nomatch same
  · rw [isAtom]
    exact fun same => nomatch same

/-- What has parentheses and what has none are told apart. -/
theorem enclosed_flatten_injective {b b' : Bool} {e e' : Expr}
    (same : (flatten e).enclosed b = (flatten e').enclosed b') : flatten e = flatten e' := by
  cases b with
  | false =>
      cases b' with
      | false => exact same
      | true => exact absurd same (flatten_ne_group e _)
  | true =>
      cases b' with
      | false => exact absurd same.symm (flatten_ne_group e' _)
      | true => exact Operand.group.inj (Chain.single.inj same)

/-- A chain can be told from its form as an operand. -/
theorem asOperand_flatten_injective {e e' : Expr}
    (same : (flatten e).asOperand = (flatten e').asOperand) : flatten e = flatten e' := by
  cases chain : flatten e with
  | single operand =>
      cases chain' : flatten e' with
      | single operand' =>
          rw [chain, chain'] at same
          exact congrArg Chain.single same
      | link operand' op rest =>
          rw [chain, chain'] at same
          cases same
          exact absurd chain (flatten_ne_group e _)
  | link operand op rest =>
      cases chain' : flatten e' with
      | single operand' =>
          rw [chain, chain'] at same
          cases same
          exact absurd chain' (flatten_ne_group e' _)
      | link operand' op' rest' =>
          rw [chain, chain'] at same
          exact Operand.group.inj same

/-! ### Operators outside parentheses bind at least as tight as the chain -/

/-- Only an operand without parentheses shows its operators. -/
theorem mem_operators_operandChain {parent : BinaryOp} {isRight : Bool} {e : Expr} {o : BinaryOp}
    (member : o ∈ (operandChain parent isRight e).operators) :
    needsParens parent isRight e = false ∧ o ∈ (flatten e).operators := by
  rw [operandChain] at member
  cases closed : needsParens parent isRight e with
  | false => exact ⟨rfl, by simpa [closed, Chain.enclosed] using member⟩
  | true => simp [closed, Chain.enclosed, Chain.operators] at member

/-- A chain with an operator comes from a binary expression. -/
theorem exists_binary_of_mem_operators {e : Expr} {o : BinaryOp}
    (member : o ∈ (flatten e).operators) : ∃ left op right, e = .binary left op right := by
  rcases shape_cases e with binary | ⟨inner, rfl⟩ | isAtom
  · exact binary
  · cases member
  · rw [isAtom] at member
    cases member

/-- An operation stands bare beside an operator only if it binds tighter, or as
tight where neither comparisons nor a right operand forbid it. -/
theorem precedence_of_needsParens_eq_false {parent : BinaryOp} {isRight : Bool} {left right : Expr}
    {op : BinaryOp} (bare : needsParens parent isRight (.binary left op right) = false) :
    parent.precedence < op.precedence ∨
      op.precedence = parent.precedence ∧ (isRight = true → parent.isAssociative = true) := by
  simp only [needsParens, operandPrecedence?, beq_iff_eq] at bare
  split at bare
  · rename_i level
    refine .inr ⟨level, ?_⟩
    rintro rfl
    simp only [Bool.true_and, Bool.or_eq_false_iff, Bool.not_eq_false'] at bare
    exact bare.2
  · rename_i different
    have notBelow : ¬ op.precedence < parent.precedence := by simpa using bare
    exact .inl (by omega)

/-- No operator in the chain of an operation binds looser than its own. -/
theorem precedence_le_of_mem_operators : ∀ {left : Expr} {op : BinaryOp} {right : Expr}
    {o : BinaryOp}, o ∈ (flatten (.binary left op right)).operators → op.precedence ≤ o.precedence
  | left, op, right, o, member => by
      have side : ∀ {isRight : Bool} {x : Expr}, sizeOf x < sizeOf (Expr.binary left op right) →
          o ∈ (operandChain op isRight x).operators → op.precedence ≤ o.precedence := by
        intro isRight x smaller inSide
        obtain ⟨bare, inFlat⟩ := mem_operators_operandChain inSide
        obtain ⟨left', op', right', rfl⟩ := exists_binary_of_mem_operators inFlat
        have inner : op'.precedence ≤ o.precedence := precedence_le_of_mem_operators inFlat
        rcases precedence_of_needsParens_eq_false bare with tighter | ⟨level, -⟩
        · omega
        · omega
      rw [flatten_binary, Chain.operators_join] at member
      rcases List.mem_append.mp member with inLeft | rest
      · exact side (by simp +arith) inLeft
      · rcases List.mem_cons.mp rest with rfl | inRight
        · exact Nat.le_refl _
        · exact side (by simp +arith) inRight
termination_by left op right => sizeOf (Expr.binary left op right)

/-! ### Regrouping -/

/-- The congruence generated by moving parentheses from behind an associative
operator to the left, between operators of one precedence. -/
inductive Regrouped : Expr → Expr → Prop where
  | refl (e : Expr) : Regrouped e e
  | symm {e e' : Expr} : Regrouped e e' → Regrouped e' e
  | trans {e e' e'' : Expr} : Regrouped e e' → Regrouped e' e'' → Regrouped e e''
  | regroup {op op' : BinaryOp} (associative : op.isAssociative = true)
      (level : op'.precedence = op.precedence) (a b c : Expr) :
      Regrouped (.binary a op (.binary b op' c)) (.binary (.binary a op b) op' c)
  | binary {left left' right right' : Expr} (op : BinaryOp) :
      Regrouped left left' → Regrouped right right' →
        Regrouped (.binary left op right) (.binary left' op right')
  | not {e e' : Expr} : Regrouped e e' → Regrouped (.not e) (.not e')

/-- No comparison is associative. -/
theorem isComparison_of_isAssociative {op : BinaryOp} (associative : op.isAssociative = true) :
    op.isComparison = false := by
  cases op with
  | and | or | plus | multiply => rfl
  | _ => cases associative

/-- Regrouping changes neither the precedence of the whole, on which its own
parentheses depend, nor its chain. -/
theorem Regrouped.flatten_eq {e e' : Expr} (regrouped : Regrouped e e') :
    operandPrecedence? e = operandPrecedence? e' ∧ flatten e = flatten e' := by
  induction regrouped with
  | refl e => exact ⟨rfl, rfl⟩
  | symm _ inductionHypothesis => exact ⟨inductionHypothesis.1.symm, inductionHypothesis.2.symm⟩
  | trans _ _ first second => exact ⟨first.1.trans second.1, first.2.trans second.2⟩
  | @regroup op op' associative level a b c =>
      have plain := isComparison_of_isAssociative associative
      have plain' : op'.isComparison = false := by
        rwa [BinaryOp.isComparison, level, ← BinaryOp.isComparison]
      have middle : operandChain op' false b = operandChain op true b := by
        simp [operandChain, needsParens, plain, plain', level, associative]
      have bareRight : operandChain op true (.binary b op' c) = flatten (.binary b op' c) := by
        simp [operandChain, Chain.enclosed, needsParens, operandPrecedence?, plain, level, associative]
      have bareLeft : operandChain op' false (.binary a op b) = flatten (.binary a op b) := by
        simp [operandChain, Chain.enclosed, needsParens, operandPrecedence?, plain', level]
      refine ⟨congrArg some level.symm, ?_⟩
      calc flatten (.binary a op (.binary b op' c))
          = (operandChain op false a).join op (flatten (.binary b op' c)) := by
            rw [flatten_binary, bareRight]
        _ = ((operandChain op false a).join op (operandChain op true b)).join op'
              (operandChain op' true c) := by
            rw [flatten_binary, middle, Chain.join_assoc]
        _ = flatten (.binary (.binary a op b) op' c) := by
            rw [flatten_binary (.binary a op b), bareLeft, flatten_binary]
  | binary op _ _ first second =>
      refine ⟨rfl, ?_⟩
      simp only [flatten_binary, operandChain, needsParens, first, second]
  | not _ inductionHypothesis =>
      refine ⟨rfl, ?_⟩
      rw [flatten, flatten, inductionHypothesis.2]

/-- Every operation can be regrouped such that its own operator is the last
one of its precedence in the chain. -/
theorem exists_last_split : ∀ (left : Expr) (op : BinaryOp) (right : Expr),
    ∃ left' op' right', Regrouped (.binary left op right) (.binary left' op' right') ∧
      op'.precedence = op.precedence ∧
        ∀ o ∈ (operandChain op' true right').operators, op'.precedence < o.precedence
  | left, op, right => by
      by_cases above : ∀ o ∈ (operandChain op true right).operators, op.precedence < o.precedence
      · exact ⟨left, op, right, .refl _, rfl, above⟩
      · simp only [Classical.not_forall, Nat.not_lt] at above
        obtain ⟨o, member, notAbove⟩ := above
        obtain ⟨bare, inFlat⟩ := mem_operators_operandChain member
        obtain ⟨b, op', c, rfl⟩ := exists_binary_of_mem_operators inFlat
        have bound := precedence_le_of_mem_operators inFlat
        rcases precedence_of_needsParens_eq_false bare with tighter | ⟨level, associative⟩
        · omega
        · -- The right operand is cut at its own last operator, and its front moves to the left.
          obtain ⟨b', last, c', regrouped, level', above'⟩ := exists_last_split b op' c
          have sameLevel : last.precedence = op.precedence := level'.trans level
          refine ⟨.binary left op b', last, c', ?_, sameLevel, above'⟩
          exact (Regrouped.binary op (.refl left) regrouped).trans
            (.regroup (associative rfl) sameLevel left b' c')
termination_by _ _ right => sizeOf right

/-- The chains of both operands are smaller than the chain of the whole, which
makes the induction on chains possible. -/
theorem sizeOf_flatten_binary (left : Expr) (op : BinaryOp) (right : Expr) :
    sizeOf (flatten left) < sizeOf (flatten (.binary left op right)) ∧
      sizeOf (flatten right) < sizeOf (flatten (.binary left op right)) := by
  rw [flatten_binary]
  have whole := Chain.sizeOf_join (operandChain op false left) op (operandChain op true right)
  have inLeft := Chain.sizeOf_le_enclosed (needsParens op false left) (flatten left)
  have inRight := Chain.sizeOf_le_enclosed (needsParens op true right) (flatten right)
  exact ⟨Nat.lt_of_le_of_lt inLeft whole.1, Nat.lt_of_le_of_lt inRight whole.2⟩

theorem sizeOf_flatten_not (e : Expr) : sizeOf (flatten e) < sizeOf (flatten (.not e)) := by
  have inside := Chain.sizeOf_le_asOperand (flatten e)
  simp only [flatten, Chain.single.sizeOf_spec, Operand.negated.sizeOf_spec]
  omega

/-- Equal chains are split at operators of equal precedence; this is one half.
-/
theorem precedence_le_of_flatten_eq {left right left' right' : Expr} {op op' : BinaryOp}
    (same : flatten (.binary left op right) = flatten (.binary left' op' right')) :
    op.precedence ≤ op'.precedence := by
  have member : op' ∈ (flatten (.binary left op right)).operators := by
    rw [same, flatten_binary, Chain.operators_join]
    simp
  exact precedence_le_of_mem_operators member

/-- Expressions with the same chain differ by regrouping only. -/
theorem regrouped_of_flatten_eq : ∀ {e e' : Expr}, flatten e = flatten e' → Regrouped e e'
  | e, e', same => by
      rcases shape_cases e with ⟨left, op, right, rfl⟩ | ⟨inner, rfl⟩ | isAtom
      · rcases shape_cases e' with ⟨left', op', right', rfl⟩ | ⟨inner', rfl⟩ | isAtom'
        · -- Both are cut at the last operator of the lowest precedence, hence at the same place.
          obtain ⟨l, o, r, regrouped, level, above⟩ := exists_last_split left op right
          obtain ⟨l', o', r', regrouped', level', above'⟩ := exists_last_split left' op' right'
          have cut := regrouped.flatten_eq.2
          have cut' := regrouped'.flatten_eq.2
          have sameCut : flatten (.binary l o r) = flatten (.binary l' o' r') :=
            cut.symm.trans (same.trans cut')
          have sameLevel : o'.precedence = o.precedence :=
            Nat.le_antisymm (precedence_le_of_flatten_eq sameCut.symm)
              (precedence_le_of_flatten_eq sameCut)
          obtain ⟨sameLeft, rfl, sameRight⟩ :=
            Chain.join_injective rfl sameLevel above (sameLevel ▸ above') sameCut
          have smaller := cut ▸ sizeOf_flatten_binary l o r
          obtain ⟨smallerLeft, smallerRight⟩ := smaller
          have lefts := regrouped_of_flatten_eq (enclosed_flatten_injective sameLeft)
          have rights := regrouped_of_flatten_eq (enclosed_flatten_injective sameRight)
          exact regrouped.trans ((Regrouped.binary o lefts rights).trans regrouped'.symm)
        · exact absurd same (Chain.join_ne_single _ _ _ _)
        · rw [isAtom'] at same
          exact absurd same (Chain.join_ne_single _ _ _ _)
      · rcases shape_cases e' with ⟨left', op', right', rfl⟩ | ⟨inner', rfl⟩ | isAtom'
        · exact absurd same.symm (Chain.join_ne_single _ _ _ _)
        · have smaller := sizeOf_flatten_not inner
          exact .not (regrouped_of_flatten_eq
            (asOperand_flatten_injective (Operand.negated.inj (Chain.single.inj same))))
        · rw [isAtom'] at same
          cases same
      · rw [isAtom] at same
        rcases shape_cases e' with ⟨left, op, right, rfl⟩ | ⟨inner, rfl⟩ | isAtom'
        · exact absurd same.symm (Chain.join_ne_single _ _ _ _)
        · cases same
        · rw [isAtom'] at same
          cases same
          exact .refl e
termination_by e => sizeOf (flatten e)

end ColumnarSql.Grouping
