/-
Module: ColumnarSql.Proofs.OperatorGrouping
Purpose: The text of an expression shows its grouping, up to regrouping.
Main exports:
  identifierText_injective, Chain.text_injective, IsOperatorTree,
  compile_eq_iff_regrouped
-/
import ColumnarSql.Proofs.BindingModes
import ColumnarSql.Proofs.CharacterRuns
import ColumnarSql.Proofs.OperatorChains

namespace ColumnarSql.Grouping

open Text ColumnarSql.Expr

/-! ### Names and operators in a text -/

/-- Behind an operand: nothing, a space or a closing parenthesis. -/
def EndsOperand (rest : List Char) : Prop :=
  ∀ c ∈ rest.head?, c = ' ' ∨ c = ')'

theorem EndsOperand.not_word {rest : List Char} (ends : EndsOperand rest) :
    ∀ c ∈ rest.head?, isWordChar c = false := by
  intro c first
  rcases ends c first with rfl | rfl <;> decide

theorem endsOperand_space (rest : List Char) : EndsOperand (' ' :: rest) := by
  intro c first
  exact .inl (Option.mem_some_iff.mp first).symm

/-- The closing quote of an identifier is the first one without a backslash. -/
theorem escapeIdentifier_injective {s s' rest rest' : List Char}
    (same : escapeIdentifier s ++ '"' :: rest = escapeIdentifier s' ++ '"' :: rest') :
    s = s' ∧ rest = rest' := by
  induction s generalizing s' with
  | nil =>
      cases s' with
      | nil => exact ⟨rfl, List.tail_eq_of_cons_eq same⟩
      | cons c' tail' => grind [escapeIdentifier]
  | cons c tail inductionHypothesis =>
      cases s' with
      | nil => grind [escapeIdentifier]
      | cons c' tail' => grind [escapeIdentifier]

/-- Plain names consist of word characters. -/
theorem isWordChar_of_isPlainName {name : List Char} (plain : isPlainName name = true) :
    ∀ c ∈ name, isWordChar c = true := by
  cases name with
  | nil => cases plain
  | cons first tail =>
      simp only [isPlainName, Bool.and_eq_true, Bool.or_eq_true, List.all_eq_true] at plain
      intro c member
      rcases List.mem_cons.mp member with rfl | inTail
      · rcases plain.1 with letter | underscore
        · simp [isWordChar, Char.isAlphanum, letter]
        · simp [isWordChar, underscore]
      · exact plain.2 c inTail

/-- A plain name is written as it is. -/
theorem identifierText_of_plain {name : String} (plain : isPlainName name.toList = true) :
    (identifierText name).toList = name.toList := by
  rw [identifierText, if_pos plain]

/-- Any other name is written in double quotes. -/
theorem identifierText_of_quoted {name : String} (quoted : ¬ isPlainName name.toList = true) :
    (identifierText name).toList = '"' :: (escapeIdentifier name.toList ++ ['"']) := by
  rw [identifierText, if_neg quoted, String.toList_ofList]
  rfl

/-- A text that starts with a plain name starts with a word character. -/
theorem isWordChar_of_plain_start {name rest tail : List Char} {c : Char}
    (plain : isPlainName name = true) (starts : name ++ rest = c :: tail) :
    isWordChar c = true := by
  cases name with
  | nil => cases plain
  | cons first chars =>
      rw [List.cons_append, List.cons.injEq] at starts
      rw [← starts.1]
      exact isWordChar_of_isPlainName plain first (by simp)

/-- A name is read off a text that starts with its identifier. -/
theorem identifierText_injective {name name' : String} {rest rest' : List Char}
    (ends : EndsOperand rest) (ends' : EndsOperand rest')
    (same : (identifierText name).toList ++ rest = (identifierText name').toList ++ rest') :
    name = name' ∧ rest = rest' := by
  by_cases plain : isPlainName name.toList = true
  · rw [identifierText_of_plain plain] at same
    by_cases plain' : isPlainName name'.toList = true
    · rw [identifierText_of_plain plain'] at same
      have inWord := isWordChar_of_isPlainName plain
      have inWord' := isWordChar_of_isPlainName plain'
      have names := congrArg (List.takeWhile isWordChar) same
      have rests := congrArg (List.dropWhile isWordChar) same
      rw [takeWhile_run inWord ends.not_word, takeWhile_run inWord' ends'.not_word] at names
      rw [dropWhile_run inWord ends.not_word, dropWhile_run inWord' ends'.not_word] at rests
      exact ⟨String.toList_injective names, rests⟩
    · rw [identifierText_of_quoted plain'] at same
      exact absurd (isWordChar_of_plain_start plain same) (by decide)
  · rw [identifierText_of_quoted plain] at same
    by_cases plain' : isPlainName name'.toList = true
    · rw [identifierText_of_plain plain'] at same
      exact absurd (isWordChar_of_plain_start plain' same.symm) (by decide)
    · rw [identifierText_of_quoted plain'] at same
      simp only [List.cons_append, List.append_assoc, List.nil_append, List.cons.injEq,
        true_and] at same
      obtain ⟨names, rests⟩ := escapeIdentifier_injective same
      exact ⟨String.toList_injective names, rests⟩

/-- No identifier starts with a parenthesis. -/
theorem identifierText_ne_group (name : String) (rest tail : List Char) :
    (identifierText name).toList ++ rest ≠ '(' :: tail := by
  intro same
  by_cases plain : isPlainName name.toList = true
  · rw [identifierText_of_plain plain] at same
    exact absurd (isWordChar_of_plain_start plain same) (by decide)
  · rw [identifierText_of_quoted plain, List.cons_append, List.cons.injEq] at same
    exact absurd same.1 (by decide)

/-- Of all identifiers, only that of the name NOT can be taken for the negating
word. -/
theorem identifierText_ne_negated {name : String} (notWord : name ≠ "NOT") {rest : List Char}
    (ends : EndsOperand rest) (tail : List Char) :
    (identifierText name).toList ++ rest ≠ "NOT ".toList ++ tail := by
  intro same
  have word : "NOT ".toList ++ tail = (identifierText "NOT").toList ++ ' ' :: tail := rfl
  rw [word] at same
  exact notWord (identifierText_injective ends (endsOperand_space tail) same).1

/-- No operator, with the space behind it, is the beginning of another. -/
theorem eq_of_text_begins (doubled : Bool) (op op' : BinaryOp)
    (begins : (op.text doubled).toList ++ [' '] <+: (op'.text doubled).toList ++ [' ']) :
    op = op' := by
  revert begins
  cases doubled <;> cases op <;> cases op' <;> decide

/-- No operator is the start of another one with a blank behind it. -/
theorem operatorText_injective {doubled : Bool} {op op' : BinaryOp} {rest rest' : List Char}
    (same : (op.text doubled).toList ++ ' ' :: rest = (op'.text doubled).toList ++ ' ' :: rest') :
    op = op' ∧ rest = rest' := by
  have begins : ∀ (o : BinaryOp) (tail : List Char),
      (o.text doubled).toList ++ [' '] <+: (o.text doubled).toList ++ ' ' :: tail :=
    fun o tail => ⟨tail, by simp⟩
  have sameOp : op = op' := by
    rcases List.prefix_or_prefix_of_prefix (begins op rest) (same ▸ begins op' rest')
      with shorter | longer
    · exact eq_of_text_begins doubled op op' shorter
    · exact (eq_of_text_begins doubled op' op longer).symm
  subst sameOp
  simpa using same

/-! ### The text of a chain -/

mutual

/-- The text of an operand. -/
def Operand.text (doubled : Bool) : Operand → List Char
  | .atom e => (e.sql ⟨doubled, false⟩).chars
  | .negated operand => "NOT ".toList ++ operand.text doubled
  | .group inner => '(' :: (inner.text doubled ++ [')'])

/-- The text of a chain. -/
def Chain.text (doubled : Bool) : Chain → List Char
  | .single operand => operand.text doubled
  | .link operand op rest =>
      operand.text doubled ++ ' ' :: ((op.text doubled).toList ++ ' ' :: rest.text doubled)

end

mutual

/-- All atoms are columns without a table.  Where operands may be negated, no
column is named NOT. -/
def Operand.IsLegible (negations : Bool) : Operand → Prop
  | .atom e => ∃ name, (negations = true → name ≠ "NOT") ∧ e = .column none name
  | .negated operand => negations = true ∧ operand.IsLegible negations
  | .group inner => inner.IsLegible negations

/-- All operands of a chain are legible. -/
def Chain.IsLegible (negations : Bool) : Chain → Prop
  | .single operand => operand.IsLegible negations
  | .link operand _ rest => operand.IsLegible negations ∧ rest.IsLegible negations

end

/-- A column without a table is written as its name. -/
theorem text_column (doubled : Bool) (name : String) :
    (Operand.atom (.column none name)).text doubled = (identifierText name).toList := by
  rw [Operand.text, Expr.sql, columnText, Fragment.chars_text]

/-- Behind a chain: nothing or a closing parenthesis. -/
def EndsChain (rest : List Char) : Prop :=
  ∀ c ∈ rest.head?, c = ')'

/-- What ends a chain also ends its last operand. -/
theorem EndsChain.endsOperand {rest : List Char} (ends : EndsChain rest) : EndsOperand rest :=
  fun c first => .inr (ends c first)

theorem EndsChain.ne_space {rest : List Char} (ends : EndsChain rest) (tail : List Char) :
    rest ≠ ' ' :: tail := by
  rintro rfl
  exact absurd (ends ' ' rfl) (by decide)

theorem endsChain_close (rest : List Char) : EndsChain (')' :: rest) := by
  intro c first
  exact (Option.mem_some_iff.mp first).symm

mutual

/-- An operand is read off a text that starts with it. -/
theorem Operand.text_injective {doubled negations : Bool} :
    ∀ {o o' : Operand} {rest rest' : List Char}, o.IsLegible negations → o'.IsLegible negations →
      EndsOperand rest → EndsOperand rest' → o.text doubled ++ rest = o'.text doubled ++ rest' →
        o = o' ∧ rest = rest'
  | .atom _, .atom _, _, _, ⟨name, _, rfl⟩, ⟨name', _, rfl⟩, ends, ends', same => by
      rw [text_column, text_column] at same
      obtain ⟨rfl, sameRest⟩ := identifierText_injective ends ends' same
      exact ⟨rfl, sameRest⟩
  | .atom _, .negated _, _, _, ⟨name, notWord, rfl⟩, ⟨negates, _⟩, ends, _, same => by
      rw [text_column, Operand.text, List.append_assoc] at same
      exact absurd same (identifierText_ne_negated (notWord negates) ends _)
  | .atom _, .group _, _, _, ⟨name, _, rfl⟩, _, _, _, same => by
      rw [text_column, Operand.text] at same
      exact absurd same (identifierText_ne_group name _ _)
  | .negated _, .atom _, _, _, ⟨negates, _⟩, ⟨name, notWord, rfl⟩, _, ends', same => by
      rw [text_column, Operand.text, List.append_assoc] at same
      exact absurd same.symm (identifierText_ne_negated (notWord negates) ends' _)
  | .negated o, .negated o', _, _, legible, legible', ends, ends', same => by
      simp only [Operand.text, List.append_assoc, List.append_cancel_left_eq] at same
      rw [Operand.IsLegible] at legible legible'
      obtain ⟨rfl, sameRest⟩ := Operand.text_injective legible.2 legible'.2 ends ends' same
      exact ⟨rfl, sameRest⟩
  | .negated _, .group _, _, _, _, _, _, _, same => by
      simp [Operand.text] at same
  | .group _, .atom _, _, _, _, ⟨name, _, rfl⟩, _, _, same => by
      rw [text_column, Operand.text] at same
      exact absurd same.symm (identifierText_ne_group name _ _)
  | .group _, .negated _, _, _, _, _, _, _, same => by
      simp [Operand.text] at same
  | .group c, .group c', rest, rest', legible, legible', _, _, same => by
      simp only [Operand.text, List.cons_append, List.append_assoc, List.nil_append,
        List.cons.injEq, true_and] at same
      obtain ⟨rfl, sameRest⟩ :=
        Chain.text_injective legible legible' (endsChain_close rest) (endsChain_close rest') same
      exact ⟨rfl, List.tail_eq_of_cons_eq sameRest⟩

/-- A chain is read off a text that starts with it. -/
theorem Chain.text_injective {doubled negations : Bool} :
    ∀ {c c' : Chain} {rest rest' : List Char}, c.IsLegible negations → c'.IsLegible negations →
      EndsChain rest → EndsChain rest' → c.text doubled ++ rest = c'.text doubled ++ rest' →
        c = c' ∧ rest = rest'
  | .single o, .single o', _, _, legible, legible', ends, ends', same => by
      obtain ⟨rfl, sameRest⟩ :=
        Operand.text_injective legible legible' ends.endsOperand ends'.endsOperand same
      exact ⟨rfl, sameRest⟩
  | .single o, .link o' op' c', _, _, legible, legible', ends, _, same => by
      simp only [Chain.text, List.append_assoc] at same
      have sameRest := (Operand.text_injective legible legible'.1 ends.endsOperand
        (endsOperand_space _) same).2
      exact absurd sameRest (ends.ne_space _)
  | .link o op c, .single o', _, _, legible, legible', _, ends', same => by
      simp only [Chain.text, List.append_assoc] at same
      have sameRest := (Operand.text_injective legible.1 legible' (endsOperand_space _)
        ends'.endsOperand same).2
      exact absurd sameRest.symm (ends'.ne_space _)
  | .link o op c, .link o' op' c', _, _, legible, legible', ends, ends', same => by
      simp only [Chain.text, List.append_assoc, List.cons_append] at same
      obtain ⟨rfl, sameTail⟩ := Operand.text_injective legible.1 legible'.1
        (endsOperand_space _) (endsOperand_space _) same
      obtain ⟨rfl, sameChains⟩ := operatorText_injective (List.tail_eq_of_cons_eq sameTail)
      obtain ⟨rfl, sameRest⟩ := Chain.text_injective legible.2 legible'.2 ends ends' sameChains
      exact ⟨rfl, sameRest⟩

end

/-! ### Operator trees -/

/-- Expressions built from columns without a table, operators between operands
and NOT.  A column named NOT is left out, since NOT before an operand negates
it; the names of the other operators are harmless, for an operand and an
operator never stand at the same place. -/
inductive IsOperatorTree : Expr → Prop where
  | column {name : String} (notWord : name ≠ "NOT") : IsOperatorTree (.column none name)
  | binary {left right : Expr} (op : BinaryOp) :
      IsOperatorTree left → IsOperatorTree right → IsOperatorTree (.binary left op right)
  | not {e : Expr} : IsOperatorTree e → IsOperatorTree (.not e)

section Legible

variable {negations : Bool}

/-- Parentheses keep a chain legible. -/
theorem Chain.IsLegible.enclosed {c : Chain} (legible : c.IsLegible negations) (condition : Bool) :
    (c.enclosed condition).IsLegible negations := by
  cases condition <;> exact legible

theorem Chain.IsLegible.asOperand {c : Chain} (legible : c.IsLegible negations) :
    c.asOperand.IsLegible negations := by
  cases c <;> exact legible

/-- Joining legible chains gives a legible chain. -/
theorem Chain.IsLegible.join {op : BinaryOp} {d : Chain} (second : d.IsLegible negations) :
    ∀ {c : Chain}, c.IsLegible negations → (c.join op d).IsLegible negations
  | .single _, first => ⟨first, second⟩
  | .link _ _ _, first => ⟨first.1, IsLegible.join second first.2⟩

end Legible

/-- The chain of an operator tree is legible. -/
theorem IsOperatorTree.isLegible {e : Expr} (tree : IsOperatorTree e) :
    (flatten e).IsLegible true := by
  induction tree with
  | column notWord => exact ⟨_, fun _ => notWord, rfl⟩
  | binary op _ _ first second => exact .join (second.enclosed _) (first.enclosed _)
  | not _ inductionHypothesis => exact ⟨rfl, inductionHypothesis.asOperand⟩

/-! ### What is written is the text of the chain -/

/-- Put parentheses around a text if asked to. -/
def parenthesizedText (condition : Bool) (s : List Char) : List Char :=
  if condition then '(' :: (s ++ [')']) else s

/-- The text of a chain in parentheses is its text in parentheses. -/
theorem text_enclosed (doubled condition : Bool) (c : Chain) :
    (c.enclosed condition).text doubled = parenthesizedText condition (c.text doubled) := by
  cases condition <;> rfl

/-- Joined chains are written with the operator between them. -/
theorem text_join (doubled : Bool) (op : BinaryOp) (d : Chain) : ∀ c : Chain,
    (c.join op d).text doubled =
      c.text doubled ++ ' ' :: ((op.text doubled).toList ++ ' ' :: d.text doubled)
  | .single _ => rfl
  | .link operand first rest => by
      simp only [Chain.join, Chain.text, text_join doubled op d rest, List.append_assoc,
        List.cons_append]

/-- As an operand, an expression is in parentheses exactly if it is binary. -/
theorem text_asOperand_flatten (doubled : Bool) (e : Expr) :
    (flatten e).asOperand.text doubled =
      parenthesizedText e.isBinary ((flatten e).text doubled) := by
  cases e with
  | binary left op right =>
      cases chain : flatten (.binary left op right) with
      | single operand => exact absurd chain (Chain.join_ne_single _ _ _ _)
      | link operand first rest => rfl
  | _ => rfl

/-- Parentheses around a fragment that is text are written around the text. -/
theorem writes_parenthesized {fragment : Fragment} {s : List Char} (written : fragment.Writes s)
    (condition : Bool) :
    (parenthesized condition fragment).Writes (parenthesizedText condition s) := by
  cases condition with
  | false => exact written
  | true => exact ((Fragment.Writes.text "(").append written).append (.text ")")

/-- An operation between operands that are written as the texts of their chains
is written as the text of its own. -/
theorem sql_writes_binary {doubled : Bool} {left right : Expr} (op : BinaryOp)
    (first : (left.sql ⟨doubled, false⟩).Writes ((flatten left).text doubled))
    (second : (right.sql ⟨doubled, false⟩).Writes ((flatten right).text doubled)) :
    ((Expr.binary left op right).sql ⟨doubled, false⟩).Writes
      ((flatten (.binary left op right)).text doubled) := by
  have onLeft := writes_parenthesized first (needsParens op false left)
  have onRight := writes_parenthesized second (needsParens op true right)
  have written := (onLeft.append (.text (" " ++ op.text doubled ++ " "))).append onRight
  have joined : (flatten (.binary left op right)).text doubled =
      parenthesizedText (needsParens op false left) ((flatten left).text doubled) ++
        (" " ++ op.text doubled ++ " ").toList ++
        parenthesizedText (needsParens op true right) ((flatten right).text doubled) := by
    rw [flatten_binary, text_join, operandChain, operandChain, text_enclosed, text_enclosed]
    simp
  rw [Expr.sql, joined]
  exact written

/-- An operator tree is written as the text of its chain. -/
theorem IsOperatorTree.sql_writes {e : Expr} (tree : IsOperatorTree e) (doubled : Bool) :
    (e.sql ⟨doubled, false⟩).Writes ((flatten e).text doubled) := by
  induction tree with
  | column _ => exact ⟨.text _, rfl⟩
  | binary op _ _ first second => exact sql_writes_binary op first second
  | @not e _ inductionHypothesis =>
      have written := (Fragment.Writes.text "NOT ").append
        (writes_parenthesized inductionHypothesis e.isBinary)
      rw [← text_asOperand_flatten] at written
      exact written

/-- Pieces without bound values are spelled as their characters and add no
parameter. -/
theorem spellPieces_of_unbound (options : CompileOptions) (earlier : List Parameter)
    {pieces : List Piece} (unbound : ∀ piece ∈ pieces, ∃ s, piece = .text s) :
    spellPieces options earlier pieces =
      (String.ofList (Fragment.chars ⟨pieces, none⟩), earlier) := by
  induction pieces with
  | nil =>
      rw [spellPieces, spellLiteral, spellBound, ite_self]
      rfl
  | cons piece rest inductionHypothesis =>
      obtain ⟨s, rfl⟩ := unbound piece (by simp)
      have spelled := inductionHypothesis fun p member => unbound p (by simp [member])
      rw [spellPieces_text, spelled]
      simp [Fragment.chars, String.ofList_append]

/-- What is written as text is spelled as that text, and nothing is bound. -/
theorem spell_of_writes {fragment : Fragment} {s : List Char} (written : fragment.Writes s)
    (options : CompileOptions) (earlier : List Parameter) :
    fragment.spell options earlier = (.ok (String.ofList s), earlier) := by
  obtain ⟨⟨complete, unbound⟩, rfl⟩ := written
  obtain ⟨pieces, fault⟩ := fragment
  obtain rfl : fault = none := complete
  rw [Fragment.spell, spellPieces_of_unbound options earlier unbound]

/-- What is written as the text of its chain compiles to that text. -/
theorem compile_eq_of_writes {e : Expr} {options : CompileOptions}
    (unlabeled : ∀ spelling, e.labeledSql spelling = e.sql spelling)
    (written : (e.sql ⟨options.style.percentsDoubled, false⟩).Writes
      ((flatten e).text options.style.percentsDoubled)) :
    e.compile options =
      .ok ⟨String.ofList ((flatten e).text options.style.percentsDoubled), [], []⟩ := by
  rw [Expr.compile, unlabeled, Fragment.compiled, spell_of_writes written]

/-- An operator tree compiles to the text of its chain, and binds nothing. -/
theorem IsOperatorTree.compile_eq {e : Expr} (tree : IsOperatorTree e) (options : CompileOptions) :
    e.compile options =
      .ok ⟨String.ofList ((flatten e).text options.style.percentsDoubled), [], []⟩ := by
  refine compile_eq_of_writes ?_ (tree.sql_writes _)
  intro spelling
  cases tree <;> rfl

/-- Rendering loses no grouping beyond regrouping: operator trees compile
under all options, and two of them to the same text exactly if a series of
regroupings behind AND, OR, plus and times leads from one to the other. -/
theorem compile_eq_iff_regrouped (options : CompileOptions) {e e' : Expr}
    (tree : IsOperatorTree e) (tree' : IsOperatorTree e') :
    (∃ text, e.compile options = .ok ⟨text, [], []⟩) ∧
      (e.compile options = e'.compile options ↔ Regrouped e e') := by
  refine ⟨⟨_, tree.compile_eq options⟩, ?_, ?_⟩
  · intro same
    rw [tree.compile_eq options, tree'.compile_eq options, Except.ok.injEq,
      CompiledStatement.mk.injEq] at same
    have sameText := congrArg (· ++ []) (String.ofList_injective same.1)
    have nothing : EndsChain [] := fun _ first => nomatch first
    exact regrouped_of_flatten_eq
      (Chain.text_injective tree.isLegible tree'.isLegible nothing nothing sameText).1
  · intro regrouped
    rw [tree.compile_eq options, tree'.compile_eq options, regrouped.flatten_eq.2]

/-- `NOT a AND b * (c % d)` and `NOT a AND (b * c) % d` are operator trees with
one text. -/
theorem compile_eq_of_product_of_remainder :
    IsOperatorTree (.binary (.not (.column none "a")) .and
        (.binary (.column none "b") .multiply
          (.binary (.column none "c") .modulo (.column none "d")))) ∧
      IsOperatorTree (.binary (.not (.column none "a")) .and
        (.binary (.binary (.column none "b") .multiply (.column none "c")) .modulo
          (.column none "d"))) ∧
      Expr.compile ⟨false, .named⟩ (.binary (.not (.column none "a")) .and
          (.binary (.column none "b") .multiply
            (.binary (.column none "c") .modulo (.column none "d")))) =
        Expr.compile ⟨false, .named⟩ (.binary (.not (.column none "a")) .and
          (.binary (.binary (.column none "b") .multiply (.column none "c")) .modulo
            (.column none "d"))) := by
  have column : ∀ name ∈ ["a", "b", "c", "d"], IsOperatorTree (.column none name) := by
    intro name member
    refine .column ?_
    rintro rfl
    exact absurd member (by decide)
  have a := column "a" (by decide)
  have b := column "b" (by decide)
  have c := column "c" (by decide)
  have d := column "d" (by decide)
  have nested := IsOperatorTree.binary .and a.not (.binary .multiply b (.binary .modulo c d))
  have chained := IsOperatorTree.binary .and a.not (.binary .modulo (.binary .multiply b c) d)
  refine ⟨nested, chained, ?_⟩
  exact (compile_eq_iff_regrouped ⟨false, .named⟩ nested chained).2.mpr
    (.binary .and (.refl _) (.regroup (by rfl) (by rfl) _ _ _))

end ColumnarSql.Grouping
